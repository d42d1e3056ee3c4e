import Wordsmith.CommandLine.Run
import Wordsmith.Proofs.CommandLine.Request
import Wordsmith.Proofs.File.Folder
import Wordsmith.Proofs.Package.Surrogates

/-!
# What a run does to the folder

A job asks whether its input is a file, reads it, decodes it, converts the text, and only then makes
folders and writes. What fails before leaves the folder as it is; what gets as far as writing is a
sequence of bytes that depends on the input alone (`Job.Converts`), and either is saved or is not. All
this holds on every `Machine`: whatever the system refuses, whichever encodings there are, and whatever
tokens a text has.

* `Job.Course` — all that can happen in a run, and `Job.course_run`: there is nothing else.
* `Job.TouchesOnlyOutput` — what the folder may have become, and what is known of how the run ended.
* `run_touchesOnlyOutput` — the whole run, from its arguments.

An output that is not named stands beside the input with the ending `.docx`. So it is another file, unless
the input has that ending already, a link is in play, or the input goes by two names.
-/

namespace Wordsmith

variable {m : Machine} {folder g : Folder} {style : Style}

/-! ## Conversions of files

`Style.convertFile` goes on with what it has read and decoded; the errors of its steps are only told in
other words. -/

/-- What follows a success whose errors are told in other words. -/
theorem mapError_ok_bind {α β ε ε' : Type} (x : α) (f : ε → ε') (next : α → Except ε' β) :
    ((Except.ok x).mapError f >>= next) = next x := rfl

/-- Once the input has been read, its bytes are decoded and its text is converted. -/
theorem Style.convertFile_of_read {input : Path} {encoding : Text} {data : List UInt8}
    (hread : folder.read m.refusals input = .ok data) :
    style.convertFile m folder input encoding =
      (m.decodeFile encoding data).mapError .decoding >>= fun text =>
        style.convert m (Encoding.unifyLineEndings false text) := by
  unfold convertFile
  rw [hread, mapError_ok_bind]

/-- A text whose tokens give a tree, and whose tree gives a package, is converted. -/
theorem Style.convert_of_package {t : Text} {answer : Datum} {tree : Node} {archive : Archive}
    (htokens : m.tokenize t = .ok answer) (htree : Node.ofDocument answer = .ok tree)
    (hpackage : style.package tree.elements = .ok archive) :
    style.convert m t = .ok ⟨tree, archive⟩ := by
  unfold convert
  rw [htokens, mapError_ok_bind, htree, mapError_ok_bind, hpackage, mapError_ok_bind]
  rfl

/-- Only what leads to a file is one. -/
theorem Folder.exists_bytes?_of_isFile {r : Refusals} {p : Path}
    (hfile : folder.isFile r p = .ok true) : ∃ data, folder.bytes? p = some data := by
  unfold isFile leadsTo look at hfile
  unfold bytes?
  split at hfile
  · rename_i place hlook
    split at hlook
    · cases hlook
    · rw [hlook]
      cases place with
      | file number => exact ⟨_, rfl⟩
      | nothing => cases hfile
      | folder => cases hfile
      | link => cases hfile
      | device => cases hfile
  · split at hfile <;> cases hfile

/-- A path to a file has a name: without any it leads to the folder that it starts from. -/
theorem Folder.names_ne_nil_of_bytes? {p : Path} {data : List UInt8}
    (hbytes : folder.bytes? p = some data) : p.names ≠ [] := by
  intro hnil
  obtain ⟨there, number, hlocate, hplace, -⟩ := bytes?_eq_some_iff.mp hbytes
  unfold locate at hlocate
  rw [hnil] at hlocate
  split at hlocate
  · rename_i hfolder
    obtain rfl : folder.base p = there := Except.ok.inj hlocate
    rw [hfolder] at hplace
    cases hplace
  · cases hlocate

namespace CommandLine

variable (showSize : Nat → Text) {bytes : List UInt8}

namespace Job

variable {j : Job}

/-! ## From the input to the bytes

Either something fails on the way, or the input has a package; which of the two it is does not depend on
the output. -/

/-- There is no package of the input: it cannot be read, its bytes cannot be decoded, or its text cannot
be converted. -/
inductive IsRefused (m : Machine) (folder : Folder) (style : Style) (j : Job) : Prop where
  | unreadable {e : FileError} (hread : folder.read m.refusals j.input = .error e)
  | undecodable {data : List UInt8} {e : DecodingError}
      (hread : folder.read m.refusals j.input = .ok data)
      (hdecode : m.decodeFile j.settings.encoding data = .error e)
  | unconvertible {data : List UInt8} {text : Text} {e : ConversionError}
      (hread : folder.read m.refusals j.input = .ok data)
      (hdecode : m.decodeFile j.settings.encoding data = .ok text)
      (hconvert : style.convert m (Encoding.unifyLineEndings false text) = .error e)

/-- These are the bytes of the package of the input's text. -/
def Converts (m : Machine) (folder : Folder) (style : Style) (j : Job) (bytes : List UInt8) : Prop :=
  ∃ data text c, folder.read m.refusals j.input = .ok data ∧
    m.decodeFile j.settings.encoding data = .ok text ∧
    style.convert m (Encoding.unifyLineEndings false text) = .ok c ∧ c.bytes = bytes

/-- One of the two is the case. -/
theorem isRefused_or_converts (m : Machine) (folder : Folder) (style : Style) (j : Job) :
    j.IsRefused m folder style ∨ ∃ bytes, j.Converts m folder style bytes := by
  cases hread : folder.read m.refusals j.input with
  | error e => exact .inl (.unreadable hread)
  | ok data =>
    cases hdecode : m.decodeFile j.settings.encoding data with
    | error e => exact .inl (.undecodable hread hdecode)
    | ok text =>
      cases hconvert : style.convert m (Encoding.unifyLineEndings false text) with
      | error e => exact .inl (.unconvertible hread hdecode hconvert)
      | ok c => exact .inr ⟨c.bytes, data, text, c, hread, hdecode, hconvert, rfl⟩

/-- What is refused is not converted. -/
theorem IsRefused.exists_convertFile (hrefused : j.IsRefused m folder style) :
    ∃ e, style.convertFile m folder j.input j.settings.encoding = .error e := by
  cases hrefused with
  | unreadable hread =>
    unfold Style.convertFile
    rw [hread]
    exact ⟨_, rfl⟩
  | undecodable hread hdecode =>
    rw [Style.convertFile_of_read hread, hdecode]
    exact ⟨_, rfl⟩
  | unconvertible hread hdecode hconvert =>
    rw [Style.convertFile_of_read hread, hdecode, mapError_ok_bind]
    exact ⟨_, hconvert⟩

/-- What converts is converted to these bytes. -/
theorem Converts.exists_convertFile (hconverts : j.Converts m folder style bytes) :
    ∃ c, style.convertFile m folder j.input j.settings.encoding = .ok c ∧ c.bytes = bytes := by
  obtain ⟨data, text, c, hread, hdecode, hconvert, hbytes⟩ := hconverts
  rw [Style.convertFile_of_read hread, hdecode, mapError_ok_bind]
  exact ⟨c, hconvert, hbytes⟩

/-- So not both are the case. -/
theorem IsRefused.not_converts (hrefused : j.IsRefused m folder style) :
    ¬ j.Converts m folder style bytes := by
  intro hconverts
  obtain ⟨e, herror⟩ := hrefused.exists_convertFile
  obtain ⟨c, hok, -⟩ := hconverts.exists_convertFile
  rw [herror] at hok
  cases hok

/-- And the bytes are determined. -/
theorem Converts.eq {bytes' : List UInt8} (hconverts : j.Converts m folder style bytes)
    (hconverts' : j.Converts m folder style bytes') : bytes = bytes' := by
  obtain ⟨c, hok, rfl⟩ := hconverts.exists_convertFile
  obtain ⟨c', hok', rfl⟩ := hconverts'.exists_convertFile
  rw [hok] at hok'
  rw [Except.ok.inj hok']

/-! ## What can happen

A run is asked for an answer six times, and each answer decides whether it goes on: is the input a file,
can the announcement be printed, is there a package, can it be saved, is there a conclusion, can that be
printed. `Course` has one rule for each way to end, with what is known there. -/

/-- What is printed before the conversion can be printed. -/
def Announces (m : Machine) (j : Job) : Prop := (m.print [] j.announcement).2 = none

/-- The conclusion of the run can be told and printed, with the package in this folder. -/
def Concludes (m : Machine) (j : Job) (folder : Folder) : Prop :=
  ∃ text, j.conclusion m showSize folder = .ok text ∧
    m.printFault (m.print [] j.announcement).1 text = none

/-- The ways in which a run may end, and what it leaves. -/
inductive Course (m : Machine) (folder : Folder) (style : Style) (j : Job) (outcome : Outcome) :
    Prop where
  /-- The system cannot tell whether there is an input. -/
  | unknown {e : FileError} (hfile : folder.isFile m.refusals j.input = .error e)
      (hending : outcome.ending = .raised e.message) (hfolder : outcome.folder = folder)
  | missing (hfile : folder.isFile m.refusals j.input = .ok false)
      (hending : outcome.ending = .returned 1) (hfolder : outcome.folder = folder)
  /-- The announcement cannot be printed. -/
  | silent {reason : Text} (hfile : folder.isFile m.refusals j.input = .ok true)
      (hannounces : (m.print [] j.announcement).2 = some reason)
      (hending : outcome.ending = .raised reason) (hfolder : outcome.folder = folder)
  | refused (hfile : folder.isFile m.refusals j.input = .ok true) (hannounces : j.Announces m)
      (hrefused : j.IsRefused m folder style) (hending : outcome.ending = .returned 1)
      (hfolder : outcome.folder = folder)
  /-- The package cannot be saved. -/
  | interrupted {bytes : List UInt8} {i : Interruption}
      (hfile : folder.isFile m.refusals j.input = .ok true) (hannounces : j.Announces m)
      (hconverts : j.Converts m folder style bytes)
      (hsave : folder.save m.refusals j.output bytes = .error i)
      (hending : outcome.ending = .returned 1) (hfolder : outcome.folder = i.folder)
  /-- The package is saved, and the run may say so or not. -/
  | saved {bytes : List UInt8} {g : Folder}
      (hfile : folder.isFile m.refusals j.input = .ok true) (hannounces : j.Announces m)
      (hconverts : j.Converts m folder style bytes)
      (hsave : folder.save m.refusals j.output bytes = .ok g)
      (hending : outcome.ending = .returned 0 ∧ j.Concludes showSize m g ∨
        (∃ reason, outcome.ending = .raised reason) ∧ ¬ j.Concludes showSize m g)
      (hfolder : outcome.folder = g)

/-- After the package has been saved, the run says so or passes an error on; the folder does not
change. -/
theorem conclude_cases {before : Text} (hbefore : (m.print [] j.announcement).1 = before)
    (report : Text) (g : Folder) :
    (j.conclude m showSize before report g).folder = g ∧
      ((j.conclude m showSize before report g).ending = .returned 0 ∧ j.Concludes showSize m g ∨
        (∃ reason, (j.conclude m showSize before report g).ending = .raised reason) ∧
          ¬ j.Concludes showSize m g) := by
  unfold conclude Concludes
  rw [hbefore]
  cases hconclusion : j.conclusion m showSize g with
  | error e => exact ⟨rfl, .inr ⟨⟨_, rfl⟩, by rintro ⟨text, htext, -⟩; cases htext⟩⟩
  | ok text =>
    cases hprint : m.printFault before text with
    | none =>
      have hprinted : m.print before [text] = (before ++ text, none) := by
        unfold Machine.print
        rw [hprint]
        rfl
      dsimp only
      rw [hprinted]
      exact ⟨rfl, .inl ⟨rfl, text, rfl, hprint⟩⟩
    | some reason =>
      have hprinted : m.print before [text] = (before, some reason) := by
        unfold Machine.print
        rw [hprint]
      dsimp only
      rw [hprinted]
      refine ⟨rfl, .inr ⟨⟨reason, rfl⟩, ?_⟩⟩
      rintro ⟨text', htext, hnone⟩
      obtain rfl := Except.ok.inj htext
      rw [hprint] at hnone
      cases hnone

section

variable (hstyle : StyleChoice.presetWith j.settings.style j.settings.pageSize j.settings.linkMode =
  .ok style)
include hstyle

/-- From an input that is there and an announcement that has been printed, there are three courses left:
no package, a package that cannot be saved, and one that is. -/
theorem course_convert {before : Text} (hfile : folder.isFile m.refusals j.input = .ok true)
    (hprint : m.print [] j.announcement = (before, none)) :
    j.Course showSize m folder style (j.convert m showSize before folder) := by
  have hannounces : j.Announces m := by
    unfold Announces
    rw [hprint]
  have hbefore : (m.print [] j.announcement).1 = before := by rw [hprint]
  unfold convert
  rw [hstyle]
  dsimp only
  rcases isRefused_or_converts m folder style j with hrefused | ⟨bytes, hconverts⟩
  · obtain ⟨e, herror⟩ := hrefused.exists_convertFile
    rw [herror]
    exact .refused hfile hannounces hrefused rfl rfl
  · obtain ⟨c, hok, rfl⟩ := hconverts.exists_convertFile
    rw [hok]
    dsimp only
    cases hsave : folder.save m.refusals j.output c.bytes with
    | error i => exact .interrupted hfile hannounces hconverts hsave rfl rfl
    | ok g =>
      obtain ⟨hfolder, hending⟩ := j.conclude_cases showSize hbefore _ g
      exact .saved hfile hannounces hconverts hsave hending hfolder

/-- Every run of a job with a style takes one of these courses. -/
theorem course_run : j.Course showSize m folder style (j.run m showSize folder) := by
  unfold run
  -- the questions are asked in this order, and the run ends at the first answer that it cannot go on
  -- with
  cases hfile : folder.isFile m.refusals j.input with
  | error e => exact .unknown hfile rfl rfl
  | ok there =>
    cases there with
    | false => exact .missing hfile rfl rfl
    | true =>
      dsimp only
      cases hprint : m.print [] j.announcement with
      | mk before fault =>
        cases fault with
        | some reason => exact .silent hfile (by rw [hprint]) rfl rfl
        | none => exact course_convert showSize hstyle hfile hprint

end

/-! ## What is promised

`TouchesOnlyOutput` says of each way to end what it means for the folder. The fields are about the
outcome as it can be seen, its ending and its folder, not about how the run came to it. -/

/-- The input is a file before and after, with the same bytes. -/
def KeepsInput (j : Job) (f g : Folder) : Prop :=
  ∃ old, f.bytes? j.input = some old ∧ g.bytes? j.input = some old

/-- Nothing but the output of the job has changed, and that only if the job is done. -/
structure TouchesOnlyOutput (m : Machine) (folder : Folder) (style : Style) (j : Job)
    (outcome : Outcome) : Prop where
  missing : folder.isFile m.refusals j.input = .ok false →
    outcome.ending = .returned 1 ∧ outcome.folder = folder
  /-- What fails before writing leaves everything as it is. -/
  refused : j.IsRefused m folder style → outcome.folder = folder ∧
    (folder.isFile m.refusals j.input = .ok true → j.Announces m → outcome.ending = .returned 1)
  /-- The output of a run that is done holds the package of the input. -/
  saved : outcome.ending = .returned 0 → ∃ bytes there, j.Converts m folder style bytes ∧
    folder.IsSaved outcome.folder j.output bytes there
  /-- An output that is another file than the input leaves that as it is. -/
  input : outcome.ending = .returned 0 → ¬ outcome.folder.SameFile j.input j.output →
    j.KeepsInput folder outcome.folder
  /-- An output that is not named is another file, unless the input ends in `.docx`, one of the two is a
  link, or the input has another name besides. -/
  unnamed : outcome.ending = .returned 0 → j.settings.output.getD [] = [] →
    j.KeepsInput folder outcome.folder ∨ j.input.EndsIn ".docx" ∨ folder.IsLink j.input ∨
      folder.IsLink j.output ∨ folder.HasOtherName j.input
  /-- A package that can be saved is saved, and the run is done if it can say so. -/
  done : ∀ bytes g, folder.isFile m.refusals j.input = .ok true → j.Announces m →
    j.Converts m folder style bytes → folder.save m.refusals j.output bytes = .ok g →
    outcome.folder = g ∧ (j.Concludes showSize m g → outcome.ending = .returned 0)
  /-- A package that cannot be saved leaves what `Folder.save` leaves. -/
  interrupted : ∀ bytes i, folder.isFile m.refusals j.input = .ok true → j.Announces m →
    j.Converts m folder style bytes → folder.save m.refusals j.output bytes = .error i →
    outcome.folder = i.folder ∧ outcome.ending = .returned 1
  /-- However the run ends, there are at most new folders on the way to the output, and in it the first
  bytes of the package. -/
  touched : folder.Grows outcome.folder j.output.parent ∨
    ∃ bytes count there, j.Converts m folder style bytes ∧
      folder.IsSaved outcome.folder j.output (bytes.take count) there
  /-- A run ends in one of these ways; it passes on an error only if the system cannot tell whether there
  is an input, or something cannot be printed or told about the output. -/
  endings : outcome.ending = .returned 0 ∨ outcome.ending = .returned 1 ∨
    (∃ reason, outcome.ending = .raised reason) ∧
      ((∃ e, folder.isFile m.refusals j.input = .error e) ∨ ¬ j.Announces m ∨
        ¬ j.Concludes showSize m outcome.folder)

/-- An output that is not named is another file than the input, with the exceptions that are told. -/
theorem keepsInput_of_unnamed {there : List Text} (hs : folder.IsSaved g j.output bytes there)
    {old : List UInt8} (hbytes : folder.bytes? j.input = some old)
    (houtput : j.output = j.input.withEnding ".docx") :
    j.KeepsInput folder g ∨ j.input.EndsIn ".docx" ∨ folder.IsLink j.input ∨
      folder.IsLink j.output ∨ folder.HasOtherName j.input := by
  by_cases hsame : g.SameFile j.input j.output
  · refine .inr ?_
    by_cases hends : j.input.EndsIn ".docx"
    · exact .inl hends
    by_cases hlink : folder.IsLink j.input
    · exact .inr (.inl hlink)
    by_cases hlink' : folder.IsLink j.output
    · exact .inr (.inr (.inl hlink'))
    refine .inr (.inr (.inr ?_))
    refine (hs.sameFile_cases hbytes hsame).resolve_left fun hlocate => ?_
    -- the two would lead to one place, but stand beside each other
    have hother : j.input.withEnding ".docx" ≠ j.input :=
      mt (Path.withEnding_eq_self_iff (Folder.names_ne_nil_of_bytes? hbytes) (by decide)
        (by decide)).mp hends
    rw [houtput] at hlink'
    obtain ⟨beside, hbeside, hne⟩ :=
      Folder.exists_locate_withEnding (by decide) hother hlink hlink' hlocate
    have hleads := hs.leads
    rw [houtput, hs.isPart.locate hbeside] at hleads
    exact hne (Except.ok.inj hleads)
  · exact .inl ⟨old, hbytes, hs.bytes?_eq hbytes hsame⟩

variable {outcome : Outcome}

/-- A run that has not come to writing. Where the input is a file and has been announced, it is refused. -/
theorem touchesOnlyOutput_of_same (hfolder : outcome.folder = folder)
    (hending : outcome.ending = .returned 1 ∨ (∃ reason, outcome.ending = .raised reason) ∧
      ((∃ e, folder.isFile m.refusals j.input = .error e) ∨ ¬ j.Announces m))
    (hmissing : folder.isFile m.refusals j.input = .ok false → outcome.ending = .returned 1)
    (hrefused : folder.isFile m.refusals j.input = .ok true → j.Announces m →
      outcome.ending = .returned 1 ∧ j.IsRefused m folder style) :
    j.TouchesOnlyOutput showSize m folder style outcome := by
  have hnot : outcome.ending ≠ .returned 0 := by
    rcases hending with hone | ⟨⟨reason, hraised⟩, -⟩
    · rw [hone]
      decide
    · rw [hraised]
      nofun
  refine
    { missing := fun hfile => ⟨hmissing hfile, hfolder⟩
      refused := fun _ => ⟨hfolder, fun hfile hannounces => (hrefused hfile hannounces).1⟩
      saved := fun hzero => absurd hzero hnot
      input := fun hzero => absurd hzero hnot
      unnamed := fun hzero => absurd hzero hnot
      done := fun bytes g hfile hannounces hconverts _ =>
        absurd hconverts (hrefused hfile hannounces).2.not_converts
      interrupted := fun bytes i hfile hannounces hconverts _ =>
        absurd hconverts (hrefused hfile hannounces).2.not_converts
      touched := .inl (hfolder ▸ Folder.Grows.refl folder _)
      endings := .inr (hending.imp_right fun h => ⟨h.1, h.2.imp_right .inl⟩) }

/-- Each way to end keeps the promises. -/
theorem touchesOnlyOutput_of_course (hcourse : j.Course showSize m folder style outcome)
    (houtput : j.settings.output.getD [] = [] → j.output = j.input.withEnding ".docx") :
    j.TouchesOnlyOutput showSize m folder style outcome := by
  cases hcourse with
  | unknown hfile hending hfolder =>
    refine touchesOnlyOutput_of_same showSize hfolder (.inr ⟨⟨_, hending⟩, .inl ⟨_, hfile⟩⟩) ?_ ?_ <;>
      rw [hfile] <;> nofun
  | missing hfile hending hfolder =>
    refine touchesOnlyOutput_of_same showSize hfolder (.inl hending) (fun _ => hending) ?_
    rw [hfile]
    nofun
  | silent hfile hannounces hending hfolder =>
    have hnot : ¬ j.Announces m := by
      unfold Announces
      rw [hannounces]
      nofun
    refine touchesOnlyOutput_of_same showSize hfolder (.inr ⟨⟨_, hending⟩, .inr hnot⟩) ?_
      fun _ h => absurd h hnot
    rw [hfile]
    nofun
  | refused hfile hannounces hrefused hending hfolder =>
    exact touchesOnlyOutput_of_same showSize hfolder (.inl hending) (fun _ => hending)
      fun _ _ => ⟨hending, hrefused⟩
  | @interrupted bytes i hfile hannounces hconverts hsave hending hfolder =>
    have hnot : outcome.ending ≠ .returned 0 := by
      rw [hending]
      decide
    refine
      { missing := by rw [hfile]; nofun
        refused := fun hrefused => absurd hconverts hrefused.not_converts
        saved := fun hzero => absurd hzero hnot
        input := fun hzero => absurd hzero hnot
        unnamed := fun hzero => absurd hzero hnot
        done := fun bytes' g _ _ hconverts' hsave' => ?_
        interrupted := fun bytes' i' _ _ hconverts' hsave' => ?_
        touched := ?_
        endings := .inr (.inl hending) }
    · rw [← hconverts.eq hconverts', hsave] at hsave'
      cases hsave'
    · rw [← hconverts.eq hconverts', hsave] at hsave'
      obtain rfl := Except.error.inj hsave'
      exact ⟨hfolder, hending⟩
    · rw [hfolder]
      exact (Folder.grows_or_isSaved_of_save_eq_error hsave).imp_right
        fun ⟨there, count, hs⟩ => ⟨bytes, count, there, hconverts, hs⟩
  | @saved bytes g hfile hannounces hconverts hsave hending hfolder =>
    -- the input has been a file, and what becomes of it is said by `IsSaved`
    subst hfolder
    obtain ⟨there, hs⟩ := Folder.isSaved_save hsave
    obtain ⟨old, hbytes⟩ := Folder.exists_bytes?_of_isFile hfile
    refine
      { missing := by rw [hfile]; nofun
        refused := fun hrefused => absurd hconverts hrefused.not_converts
        saved := fun _ => ⟨bytes, there, hconverts, hs⟩
        input := fun _ hother => ⟨old, hbytes, hs.bytes?_eq hbytes hother⟩
        unnamed := fun _ hunnamed => keepsInput_of_unnamed hs hbytes (houtput hunnamed)
        done := fun bytes' g _ _ hconverts' hsave' => ?_
        interrupted := fun bytes' i _ _ hconverts' hsave' => ?_
        touched := .inr ⟨bytes, bytes.length, there, hconverts, by rwa [List.take_length]⟩
        endings := ?_ }
    · rw [← hconverts.eq hconverts', hsave] at hsave'
      obtain rfl := Except.ok.inj hsave'
      exact ⟨rfl, fun hconcludes =>
        hending.elim And.left fun h => absurd hconcludes h.2⟩
    · rw [← hconverts.eq hconverts', hsave] at hsave'
      cases hsave'
    · exact hending.imp And.left fun h => .inr ⟨h.1, .inr (.inr h.2)⟩

/-- An output that is not named, or named by an empty text, is the input with another ending. -/
theorem output_ofSettings {input : Text} {settings : Settings}
    (hunnamed : settings.output.getD [] = []) :
    (ofSettings input settings).output = (ofSettings input settings).input.withEnding ".docx" := by
  unfold ofSettings
  cases houtput : settings.output with
  | none => rfl
  | some output =>
    rw [houtput, Option.getD_some] at hunnamed
    rw [hunnamed]

end Job

/-! ## The whole run

Arguments that ask for a conversion name a style that there is, so the run is that of a `Job`. All other
arguments only print something. -/

/-- A request for a conversion is a job. -/
theorem run_of_convert {arguments : List Text} {input : Text} {settings : Settings}
    (hrequest : Request.ofArguments arguments = .ok (.convert input settings)) :
    run m showSize folder arguments = (Job.ofSettings input settings).run m showSize folder := by
  unfold run
  rw [hrequest]

/-- Where no conversion is asked for, the folder stays as it is. -/
theorem folder_run_of_not_convert {arguments : List Text}
    (hother : ∀ input settings, Request.ofArguments arguments ≠ .ok (.convert input settings)) :
    (run m showSize folder arguments).folder = folder := by
  unfold run
  split
  case h_4 => split <;> rfl
  case h_5 hrequest => exact absurd hrequest (hother _ _)
  all_goals rfl

/-- Arguments that ask for a conversion choose a style, and the run touches only its output. -/
theorem run_touchesOnlyOutput (m : Machine) (folder : Folder) {arguments : List Text}
    {input : Text} {settings : Settings}
    (hrequest : Request.ofArguments arguments = .ok (.convert input settings)) :
    ∃ style, StyleChoice.presetWith settings.style settings.pageSize settings.linkMode = .ok style ∧
      (Job.ofSettings input settings).TouchesOnlyOutput showSize m folder style
        (run m showSize folder arguments) := by
  obtain ⟨style, hstyle⟩ := (isSound_ofArguments hrequest).2.2.2.exists_presetWith
  rw [run_of_convert showSize hrequest]
  exact ⟨style, hstyle, Job.touchesOnlyOutput_of_course showSize (Job.course_run showSize hstyle)
    Job.output_ofSettings⟩

/-! ## Empty inputs

An empty file has no blocks in any Markdown, and the package of none is not empty. That is enough to see
a run through on a machine that can read the file. -/

/-- A folder with nothing but an empty file. -/
def emptyFile (name : Text) : Folder := Folder.empty.addFile [name] []

/-- There are the folder itself and the file in it. -/
theorem place_emptyFile (name : Text) (names : List Text) :
    (emptyFile name).place names =
      if names = [name] then .file 0 else if names = [] then .folder else .nothing := rfl

/-- Nothing in it is a link. -/
theorem not_isLink_emptyFile (name : Text) (p : Path) : ¬ (emptyFile name).IsLink p := by
  rintro ⟨there, target, -, hlink⟩
  rw [place_emptyFile] at hlink
  split at hlink
  · cases hlink
  · split at hlink <;> cases hlink

/-- Nothing in it has two names. -/
theorem not_hasOtherName_emptyFile (name : Text) (p : Path) :
    ¬ (emptyFile name).HasOtherName p := by
  -- the one name with a number is that of the file
  have honly : ∀ names number, ((emptyFile name).place names).number? = some number →
      names = [name] := by
    intro names number hnumber
    rw [place_emptyFile] at hnumber
    split at hnumber
    · assumption
    · split at hnumber <;> cases hnumber
  rintro ⟨there, names, number, -, hne, hthere, hnames⟩
  exact hne ((honly names number hnames).trans (honly there number hthere).symm)

/-- An empty file is converted to the package of an empty text. -/
theorem exists_converts_emptyFile {r : Refusals} {j : Job} (hread : folder.read r j.input = .ok [])
    (hencoding : j.settings.encoding = "utf-8") :
    ∃ bytes ≠ [], j.Converts (.refusing r) folder Preset.default.style bytes := by
  have htree : Node.ofDocument (.ofMarkdown []) = .ok { kind := .document } := rfl
  obtain ⟨archive, hpackage⟩ : ∃ archive,
      Preset.default.style.package ({ kind := .document } : Node).elements = .ok archive :=
    Style.exists_package_of_not (by decide)
  have hbytes : archive.bytes ≠ [] := by
    intro hnil
    have hlength := congrArg List.length hnil
    unfold Archive.bytes at hlength
    simp [length_littleEndian] at hlength
  have hdecode : (Machine.refusing r).decodeFile j.settings.encoding [] = .ok [] := by
    rw [hencoding]
    rfl
  exact ⟨archive.bytes, hbytes, [], [], _, hread, hdecode,
    Style.convert_of_package (m := .refusing r) rfl htree hpackage, rfl⟩

section

variable {r : Refusals} {arguments : List Text} {input : Text} {settings : Settings}
  (hrequest : Request.ofArguments arguments = .ok (.convert input settings))
  (hstyle : StyleChoice.presetWith settings.style settings.pageSize settings.linkMode =
    .ok Preset.default.style)
  (hsettings : settings.encoding = "utf-8" ∧ settings.verbose = false)
  (hfile : folder.isFile r (.ofText input) = .ok true)
  (hread : folder.read r (.ofText input) = .ok [])

include hrequest hstyle hsettings hread in
/-- A run that is asked to convert an empty file, and to print no more than it has to, has bytes to save,
and says so if it can. -/
theorem exists_touchesOnlyOutput_emptyFile :
    ∃ bytes ≠ [], (Job.ofSettings input settings).Converts (.refusing r) folder
        Preset.default.style bytes ∧ (Job.ofSettings input settings).Announces (.refusing r) ∧
      (∀ g, (Job.ofSettings input settings).Concludes showSize (.refusing r) g) ∧
      (Job.ofSettings input settings).TouchesOnlyOutput showSize (.refusing r) folder
        Preset.default.style (run (.refusing r) showSize folder arguments) := by
  obtain ⟨bytes, hbytes, hconverts⟩ := exists_converts_emptyFile (j := .ofSettings input settings)
    hread hsettings.1
  have hverbose : (Job.ofSettings input settings).settings.verbose = false := hsettings.2
  refine ⟨bytes, hbytes, hconverts, ?_, fun g => ?_, ?_⟩
  · unfold Job.Announces Job.announcement
    rw [hverbose]
    rfl
  · unfold Job.Concludes Job.conclusion
    rw [hverbose]
    exact ⟨_, rfl, rfl⟩
  · rw [run_of_convert showSize hrequest]
    exact Job.touchesOnlyOutput_of_course showSize (Job.course_run showSize hstyle)
      Job.output_ofSettings

include hrequest hstyle hsettings hfile hread

/-- The package of an empty file is saved, if it can be saved. -/
theorem exists_run_emptyFile {save : List UInt8 → Folder}
    (hsave : ∀ bytes, folder.save r (Job.ofSettings input settings).output bytes =
      .ok (save bytes)) :
    ∃ bytes ≠ [], (run (.refusing r) showSize folder arguments).ending = .returned 0 ∧
      (run (.refusing r) showSize folder arguments).folder = save bytes := by
  obtain ⟨bytes, hbytes, hconverts, hannounces, hconcludes, htouches⟩ :=
    exists_touchesOnlyOutput_emptyFile showSize hrequest hstyle hsettings hread
  obtain ⟨hfolder, hending⟩ :=
    htouches.done bytes (save bytes) hfile hannounces hconverts (hsave bytes)
  exact ⟨bytes, hbytes, hending (hconcludes _), hfolder⟩

/-- If the package of an empty file cannot be saved, the run fails and leaves what has been left. -/
theorem exists_run_emptyFile_of_error {fail : List UInt8 → Interruption}
    (hsave : ∀ bytes, folder.save r (Job.ofSettings input settings).output bytes =
      .error (fail bytes)) :
    ∃ bytes ≠ [], (run (.refusing r) showSize folder arguments).ending = .returned 1 ∧
      (run (.refusing r) showSize folder arguments).folder = (fail bytes).folder := by
  obtain ⟨bytes, hbytes, hconverts, hannounces, -, htouches⟩ :=
    exists_touchesOnlyOutput_emptyFile showSize hrequest hstyle hsettings hread
  obtain ⟨hfolder, hending⟩ :=
    htouches.interrupted bytes (fail bytes) hfile hannounces hconverts (hsave bytes)
  exact ⟨bytes, hbytes, hending, hfolder⟩

end

/-- Where there is an empty `a.md`, converting it makes `a.docx`, and converting another file fails. -/
theorem run_touchesOnlyOutput_emptyFile :
    (Request.ofArguments ["a.md"] = .ok (.convert "a.md" { input := some "a.md" }) ∧
      (run .standard Text.ofNat (emptyFile "a.md") ["a.md"]).ending = .returned 0 ∧
      (run .standard Text.ofNat (emptyFile "a.md") ["a.md"]).folder.bytes? (.ofText "a.md") =
        some [] ∧
      ∃ bytes, (run .standard Text.ofNat (emptyFile "a.md") ["a.md"]).folder.bytes?
        (.ofText "a.docx") = some bytes ∧ bytes ≠ []) ∧
    Request.ofArguments ["b.md", "-o", "c/d.docx"] =
        .ok (.convert "b.md" { input := some "b.md", output := some "c/d.docx" }) ∧
      (run .standard Text.ofNat (emptyFile "a.md") ["b.md", "-o", "c/d.docx"]).ending =
        .returned 1 ∧
      (run .standard Text.ofNat (emptyFile "a.md") ["b.md", "-o", "c/d.docx"]).folder =
        emptyFile "a.md" := by
  have hrequest : Request.ofArguments ["a.md"] = .ok (.convert "a.md" { input := some "a.md" }) := rfl
  have hother : Request.ofArguments ["b.md", "-o", "c/d.docx"] =
    .ok (.convert "b.md" { input := some "b.md", output := some "c/d.docx" }) := rfl
  constructor
  · have hempty : (emptyFile "a.md").bytes? (.ofText "a.md") = some [] := rfl
    have hsave : ∀ bytes, (emptyFile "a.md").save .none (.ofText "a.docx") bytes =
      .ok ((emptyFile "a.md").addFile ["a.docx"] bytes) := fun _ => rfl
    obtain ⟨bytes, hbytes, hzero, hfolder⟩ :=
      exists_run_emptyFile Text.ofNat hrequest rfl ⟨rfl, rfl⟩ rfl rfl hsave
    obtain ⟨style, -, htouches⟩ :=
      run_touchesOnlyOutput Text.ofNat .standard (emptyFile "a.md") hrequest
    have hending : ¬ (Path.ofText "a.md").EndsIn ".docx" := by
      rintro ⟨init, before, -, hends⟩
      have hnames : (Path.ofText "a.md").names = [Text.ofString "a.md"] := rfl
      have hlength := congrArg (fun names : List Text => names.getLast?.map List.length)
        (hnames.symm.trans hends)
      rw [List.getLast?_concat, Option.map_some, List.length_append] at hlength
      have hlong : 4 = before.length + 5 := Option.some.inj hlength
      omega
    obtain ⟨old, hold, hkept⟩ : (Job.ofSettings "a.md" { input := some "a.md" }).KeepsInput
        (emptyFile "a.md") _ := by
      rcases htouches.unnamed hzero rfl with hkept | hends | hlink | hlink | hname
      · exact hkept
      · exact absurd hends hending
      · exact absurd hlink (not_isLink_emptyFile _ _)
      · exact absurd hlink (not_isLink_emptyFile _ _)
      · exact absurd hname (not_hasOtherName_emptyFile _ _)
    obtain rfl : [] = old := Option.some.inj (hempty.symm.trans hold)
    have houtput : _ = some bytes := congrArg (Folder.bytes? · (.ofText "a.docx")) hfolder
    exact ⟨hrequest, hzero, hkept, bytes, houtput, hbytes⟩
  · obtain ⟨style, -, htouches⟩ :=
      run_touchesOnlyOutput Text.ofNat .standard (emptyFile "a.md") hother
    exact ⟨hother, htouches.missing rfl⟩

/-! ## Exceptions

Each of them needs one folder or one machine on which it shows. -/

/-- The run is done, and the path leads to a file that has been empty and is not any more. -/
def Fills (folder : Folder) (arguments : List Text) (p : Path) : Prop :=
  (run .standard Text.ofNat folder arguments).ending = .returned 0 ∧ folder.bytes? p = some [] ∧
    ∃ bytes ≠ [], (run .standard Text.ofNat folder arguments).folder.bytes? p = some bytes

/-- An input is filled if the output leads to the same file, here the one with number zero. -/
theorem fills_of_save {arguments : List Text} {input : Text}
    (hrequest : Request.ofArguments arguments = .ok (.convert input { input := some input }))
    (hfile : folder.isFile .none (.ofText input) = .ok true)
    (hread : folder.read .none (.ofText input) = .ok [])
    (hempty : folder.bytes? (.ofText input) = some [])
    (hsave : ∀ bytes, folder.save .none (Job.ofSettings input { input := some input }).output bytes =
      .ok (folder.rewrite 0 bytes))
    (hbytes : ∀ bytes, (folder.rewrite 0 bytes).bytes? (.ofText input) = some bytes) :
    Fills folder arguments (.ofText input) := by
  obtain ⟨bytes, hne, hzero, hfolder⟩ :=
    exists_run_emptyFile Text.ofNat hrequest rfl ⟨rfl, rfl⟩ hfile hread hsave
  exact ⟨hzero, hempty, bytes, hne,
    (congrArg (Folder.bytes? · (.ofText input)) hfolder).trans (hbytes bytes)⟩

/-- An empty file, and something else beside it. -/
def besideFile (name other : Text) (place : Place)
    (hplace : ∀ number, place.number? = some number → number < 1) : Folder :=
  (emptyFile name).withPlace [other] place hplace

/-- Nothing may be looked at. -/
def closed : Refusals :=
  { Refusals.none with refuses := fun _ _ _ => some (.other 13 "Permission denied") }

/-- There is no space for bytes. -/
def full : Refusals :=
  { Refusals.none with breaksOff := fun _ _ _ => some (0, .other 28 "No space left on device") }

/-- A machine that cannot print anything. -/
def mute : Machine := { Machine.standard with printFault := fun _ _ => some "closed" }

/-- An input is replaced by its package if it ends in `.docx`, if a link to it or a second name of it does,
or if it is itself a link to such a file; and a device does not hold what it is given. Where the presets
are asked for, nothing is converted. An error is passed on if the system cannot tell whether there is an
input, or if nothing can be printed. And a package for which there is no space leaves a file behind. -/
theorem run_replaces_input :
    (Fills (emptyFile "a.docx") ["a.docx"] (.ofText "a.docx") ∧
      Fills (besideFile "a.md" "a.docx" (.link (.ofText "a.md")) nofun) ["a.md"] (.ofText "a.md") ∧
      Fills (besideFile "a.md" "a.docx" (.file 0) (by decide)) ["a.md"] (.ofText "a.md") ∧
      Fills (besideFile "a.docx" "a.md" (.link (.ofText "a.docx")) nofun) ["a.md"]
        (.ofText "a.md")) ∧
    ((run .standard Text.ofNat ((emptyFile "a.md").addDevice ["null"]) ["a.md", "-o", "null"]).ending =
        .returned 0 ∧
      (run .standard Text.ofNat ((emptyFile "a.md").addDevice ["null"])
        ["a.md", "-o", "null"]).folder.bytes? (.ofText "null") = none) ∧
    (Folder.empty.isFile .none (.ofText "b.md") = .ok false ∧
      (run .standard Text.ofNat Folder.empty ["--list-styles", "b.md"]).ending = .returned 0) ∧
    (∃ reason, (run (.refusing closed) Text.ofNat Folder.empty ["b.md"]).ending = .raised reason) ∧
    ((∃ e, mute.decodeFile "x" [] = .error e) ∧
      ∃ reason, (run mute Text.ofNat (emptyFile "a.md") ["-v", "-e", "x", "a.md"]).ending =
        .raised reason) ∧
    (run (.refusing full) Text.ofNat (emptyFile "a.md") ["a.md"]).ending = .returned 1 ∧
      (run (.refusing full) Text.ofNat (emptyFile "a.md") ["a.md"]).folder.bytes?
        (.ofText "a.docx") = some [] := by
  have hmd : Request.ofArguments ["a.md"] = .ok (.convert "a.md" { input := some "a.md" }) := rfl
  refine ⟨⟨?_, ?_, ?_, ?_⟩, ?_, ⟨rfl, rfl⟩, ⟨_, rfl⟩, ⟨⟨_, rfl⟩, _, rfl⟩, ?_⟩
  · exact fills_of_save rfl rfl rfl rfl (fun _ => rfl) fun _ => rfl
  · exact fills_of_save hmd rfl rfl rfl (fun _ => rfl) fun _ => rfl
  · exact fills_of_save hmd rfl rfl rfl (fun _ => rfl) fun _ => rfl
  · exact fills_of_save hmd rfl rfl rfl (fun _ => rfl) fun _ => rfl
  · have hdevice : Request.ofArguments ["a.md", "-o", "null"] =
        .ok (.convert "a.md" { input := some "a.md", output := some "null" }) := rfl
    have hsave : ∀ bytes, ((emptyFile "a.md").addDevice ["null"]).save .none (.ofText "null") bytes =
        .ok (((emptyFile "a.md").addDevice ["null"]).rewrite 1 ([] ++ bytes)) := fun _ => rfl
    obtain ⟨bytes, -, hzero, hfolder⟩ :=
      exists_run_emptyFile Text.ofNat hdevice rfl ⟨rfl, rfl⟩ rfl rfl hsave
    exact ⟨hzero, congrArg (Folder.bytes? · (.ofText "null")) hfolder⟩
  · have hsave : ∀ bytes, (emptyFile "a.md").save full (.ofText "a.docx") bytes =
        .error ⟨⟨.other 28 "No space left on device", .ofText "a.docx"⟩,
          (emptyFile "a.md").addFile ["a.docx"] (bytes.take 0)⟩ := fun _ => rfl
    obtain ⟨bytes, -, hone, hfolder⟩ :=
      exists_run_emptyFile_of_error Text.ofNat hmd rfl ⟨rfl, rfl⟩ rfl rfl hsave
    exact ⟨hone, congrArg (Folder.bytes? · (.ofText "a.docx")) hfolder⟩

end CommandLine

end Wordsmith
