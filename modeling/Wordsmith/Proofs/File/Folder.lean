import Wordsmith.Proofs.File.Ending
import Wordsmith.Proofs.File.Way

/-!
# What saving a file changes

Making folders turns nothing into folders and leaves all else as it is (`Grows`), also when it is
interrupted. Writing puts bytes into what is at the end of a path, or makes a new file there (`IsPut`).
`Folder.save` does one after the other, whatever the system refuses in between:

* `isSaved_save` — a file that has been saved is where its path leads, with these bytes; besides there are
  only new folders, on the way to it (`IsSaved`).
* `grows_or_isSaved_of_save_eq_error` — an interrupted `save` has at most made folders, or has saved the
  first of the bytes.
* `IsSaved.bytes?_eq` — a file keeps its bytes unless the path that was saved leads to it.
* `IsSaved.sameFile_cases`, `exists_locate_withEnding` — when a path with another ending leads to the same
  file.
-/

namespace Wordsmith.Folder

variable {f g made : Folder} {p q : Path} {names there : List Text} {data : List UInt8} {r : Refusals}

/-! ## What paths lead to

`lookUp` and `bytes?` read a place at the end of `locate`. A file may be known under several names; the
number that stands at a place tells which file it is. -/

/-- What is found is what stands at the end of the path. -/
theorem lookUp_of_locate (hlocate : f.locate true p = .ok there) :
    f.lookUp p = .ok (f.place there) := by
  unfold lookUp
  rw [hlocate]
  rfl

/-- A path leads to bytes if there is a file at its end, under whose number they are. -/
theorem bytes?_eq_some_iff :
    f.bytes? p = some data ↔ ∃ there number, f.locate true p = .ok there ∧
      f.place there = .file number ∧ f.data number = data := by
  cases hlocate : f.locate true p with
  | error fault =>
    have hlook : f.lookUp p = .error fault := by
      unfold lookUp
      rw [hlocate]
      rfl
    unfold bytes?
    rw [hlook]
    exact iff_of_false (nofun) (by rintro ⟨there, number, hthere, -⟩; cases hthere)
  | ok there =>
    unfold bytes?
    rw [lookUp_of_locate hlocate]
    cases hplace : f.place there <;> simp [hplace]

/-- The number of the file or device that a path leads to. -/
def number? (f : Folder) (p : Path) : Option Nat := (f.lookUp p).toOption.bind Place.number?

/-- The number is that at the end of the path. -/
theorem number?_of_locate (hlocate : f.locate true p = .ok there) :
    f.number? p = (f.place there).number? := by
  unfold number?
  rw [lookUp_of_locate hlocate]
  rfl

/-- The paths lead to one file or device. -/
def SameFile (f : Folder) (p q : Path) : Prop :=
  ∃ number, f.number? p = some number ∧ f.number? q = some number

/-- What a path leads to stands under other names as well. -/
def HasOtherName (f : Folder) (p : Path) : Prop :=
  ∃ there names number, f.locate true p = .ok there ∧ names ≠ there ∧
    (f.place there).number? = some number ∧ (f.place names).number? = some number

/-- A new folder is at one place. -/
theorem place_addFolder (f : Folder) (there names : List Text) :
    (f.addFolder there).place names = if names = there then .folder else f.place names := rfl

/-- So is a new file, under the next number. -/
theorem place_addFile (f : Folder) (there names : List Text) (data : List UInt8) :
    (f.addFile there data).place names = if names = there then .file f.next else f.place names := rfl

/-! ## New folders

Folders are made for a path and for the paths that it begins with, so they stand on the way to it. They
are no links, and so do not change where a path leads: the folder before is part of the one after. -/

/-- The path, or one that it begins with, leads there. -/
def IsOnWay (f : Folder) (p : Path) (names : List Text) : Prop :=
  ∃ q : Path, q.root = p.root ∧ q.names <+: p.names ∧ f.locate true q = .ok names

/-- What is on the way stays so when the folder has more. -/
theorem IsOnWay.mono (h : f.IsOnWay p names) (hpart : IsPart f g) : g.IsOnWay p names := by
  obtain ⟨q, hroot, hbegins, hlocate⟩ := h
  exact ⟨q, hroot, hbegins, hpart.locate hlocate⟩

/-- `g` has everything that `f` has, and besides it only folders on the way to `p`. -/
structure Grows (f g : Folder) (p : Path) : Prop where
  start : g.start = f.start
  data : g.data = f.data
  next : g.next = f.next
  place : ∀ names, g.place names = f.place names ∨
    f.place names = .nothing ∧ g.place names = .folder ∧ g.IsOnWay p names

namespace Grows

/-- Nothing has to be made. -/
theorem refl (f : Folder) (p : Path) : Grows f f p := ⟨rfl, rfl, rfl, fun _ => .inl rfl⟩

/-- Nothing gets lost. -/
theorem isPart (hg : Grows f g p) : IsPart f g where
  start := hg.start
  place names := (hg.place names).imp_right fun ⟨hnothing, hfolder, _⟩ => ⟨hnothing, .inl hfolder⟩

/-- Some folders, and then some more. -/
theorem trans (hg : Grows f made p) (hh : Grows made g p) : Grows f g p where
  start := hh.start.trans hg.start
  data := hh.data.trans hg.data
  next := hh.next.trans hg.next
  place names := by
    rcases hg.place names with hsame | ⟨hnothing, hfolder, hway⟩
    · rw [← hsame]
      exact hh.place names
    · -- a folder that has been made stays
      have hstays : g.place names = .folder := hh.isPart.place_of_eq hfolder nofun
      exact .inr ⟨hnothing, hstays, hway.mono hh.isPart⟩

/-- What is on the way to the parent is on the way. -/
theorem of_parent (hg : Grows f g p.parent) : Grows f g p where
  start := hg.start
  data := hg.data
  next := hg.next
  place names := (hg.place names).imp_right fun ⟨hnothing, hfolder, q, hroot, hbegins, hlocate⟩ =>
    ⟨hnothing, hfolder, q, hroot, hbegins.trans (List.dropLast_prefix _), hlocate⟩

end Grows

/-- One folder is made at the end of the path, where there has been nothing. -/
theorem grows_makeFolder (hmake : f.makeFolder r p = .ok g) : Grows f g p := by
  unfold makeFolder at hmake
  split at hmake
  · cases hmake
  · cases hmake
  · rename_i there _ hlocate
    split at hmake
    · rename_i hnothing
      cases hmake
      have hplace : ∀ names, (f.addFolder there).place names = f.place names ∨
          f.place names = .nothing ∧ (f.addFolder there).place names = .folder ∧ names = there := by
        intro names
        rw [place_addFolder]
        split
        · rename_i heq
          exact .inr ⟨heq ▸ hnothing, rfl, heq⟩
        · exact .inl rfl
      have hpart : IsPart f (f.addFolder there) :=
        ⟨rfl, fun names => (hplace names).imp_right fun h => ⟨h.1, .inl h.2.1⟩⟩
      -- there has been nothing at the end of the path, so no link
      have hthere : f.locate true p = .ok there := by
        rcases f.locate_through p with hsame | ⟨names, target, hnames, hlink⟩
        · rw [hsame, hlocate]
        · rw [hlocate] at hnames
          obtain rfl := Except.ok.inj hnames
          rw [hnothing] at hlink
          cases hlink
      refine ⟨rfl, rfl, rfl, fun names => (hplace names).imp_right fun ⟨hbefore, hfolder, heq⟩ => ?_⟩
      exact ⟨hbefore, hfolder, p, rfl, List.prefix_refl _, heq ▸ hpart.locate hthere⟩
    · cases hmake

/-- A folder is made, or there has been one. -/
theorem grows_ensureFolder (hensure : f.ensureFolder r p = .ok g) : Grows f g p := by
  unfold ensureFolder at hensure
  split at hensure
  · rename_i hmake
    exact Except.ok.inj hensure ▸ grows_makeFolder hmake
  · split at hensure
    · cases hensure
    · split at hensure
      · exact Except.ok.inj hensure ▸ Grows.refl f p
      · cases hensure
      · cases hensure

/-- The folder that work leaves, finished or not. -/
def left : Except Interruption Folder → Folder
  | .ok f => f
  | .error i => i.folder

/-- Making folders only adds some, also when it is interrupted. The induction is on the number of
folders that may be made. -/
theorem grows_makeFolders (f : Folder) (p : Path) (fuel : Nat) :
    Grows f (left (f.makeFolders r p fuel)) p := by
  induction fuel generalizing p with
  | zero => exact Grows.refl f p
  | succ fuel ih =>
    rw [makeFolders]
    split
    · rename_i hensure
      exact grows_ensureFolder hensure
    · split
      · -- if its parent is missing, the parent is made first, and then the folder is tried again
        have hparent := (ih p.parent).of_parent
        cases hmade : f.makeFolders r p.parent fuel with
        | error i =>
          rw [hmade] at hparent
          exact hparent
        | ok g =>
          rw [hmade] at hparent
          show Grows f (left ((g.ensureFolder r p).mapError _)) p
          cases hensure : g.ensureFolder r p with
          | error e => exact hparent
          | ok h => exact hparent.trans (grows_ensureFolder hensure)
      · exact Grows.refl f p

/-! ## Writing

`Folder.put` gives bytes to what stands at a place and makes a new file where nothing does. No other place
changes, and no bytes change but those under the one number. -/

/-- What has been written is all that a file there holds; a device there has been given it. -/
def HasTaken (f g : Folder) (there : List Text) (data : List UInt8) : Prop :=
  match g.place there with
  | .file number => g.data number = data
  | .device number => g.data number = f.data number ++ data
  | .nothing | .folder | .link _ => False

/-- What stands at a place has stood there before, or is a file that has been nowhere before. -/
def IsOldOrNew (f g : Folder) (there : List Text) : Prop :=
  g.place there = f.place there ∨ f.place there = .nothing ∧ g.place there = .file f.next

/-- These bytes have been put there, and nothing else has changed. -/
structure IsPut (f g : Folder) (there : List Text) (data : List UInt8) : Prop where
  start : g.start = f.start
  taken : HasTaken f g there data
  target : IsOldOrNew f g there
  elsewhere : ∀ names ≠ there, g.place names = f.place names
  others : ∀ number, (g.place there).number? ≠ some number → g.data number = f.data number

/-- Other bytes under the number of a place change nothing but what is there. -/
theorem isPut_rewrite {number : Nat} (hnumber : (f.place there).number? = some number)
    (bytes : List UInt8) (htaken : HasTaken f (f.rewrite number bytes) there data) :
    IsPut f (f.rewrite number bytes) there data where
  start := rfl
  taken := htaken
  target := .inl rfl
  elsewhere _ _ := rfl
  others other hother := if_neg fun heq : other = number => hother (heq ▸ hnumber)

/-- A new file holds the bytes, and its number has not been in use. -/
theorem isPut_addFile (hnothing : f.place there = .nothing) (data : List UInt8) :
    IsPut f (f.addFile there data) there data := by
  have hnew : (f.addFile there data).place there = .file f.next := by rw [place_addFile, if_pos rfl]
  have hother : ∀ names ≠ there, (f.addFile there data).place names = f.place names :=
    fun names hne => by rw [place_addFile, if_neg hne]
  refine ⟨rfl, ?_, .inr ⟨hnothing, hnew⟩, hother, fun number hnumber => ?_⟩
  · unfold HasTaken
    rw [hnew]
    exact if_pos rfl
  · rw [hnew] at hnumber
    exact if_neg fun heq : number = f.next => hnumber (congrArg some heq.symm)

/-- Whatever stands there takes the bytes in its own way, or refuses them. -/
theorem isPut_put (hput : f.put there data = .ok g) : IsPut f g there data := by
  unfold put at hput
  cases hplace : f.place there <;> rw [hplace] at hput <;> cases hput
  case nothing => exact isPut_addFile hplace data
  case file number =>
    refine isPut_rewrite (by rw [hplace]; rfl) data ?_
    unfold HasTaken
    rw [show (f.rewrite number data).place there = .file number from hplace]
    exact if_pos rfl
  case device number =>
    refine isPut_rewrite (by rw [hplace]; rfl) _ ?_
    unfold HasTaken
    rw [show (f.rewrite number _).place there = .device number from hplace]
    exact if_pos rfl

/-- What has been there stays. -/
theorem IsPut.isPart (h : IsPut f g there data) : IsPart f g where
  start := h.start
  place names := by
    by_cases heq : names = there
    · rw [heq]
      exact h.target.imp_right fun ⟨hnothing, hnew⟩ => ⟨hnothing, .inr ⟨_, hnew⟩⟩
    · exact .inl (h.elsewhere names heq)

/-! ## Saving

The two halves put together. Both may be interrupted, and an interruption carries the folder as it has
been left. -/

/-- The path leads to `there`, where `data` has been written to what has been there before or to a new
file. Elsewhere everything is as it was, except that there are folders on the way to the parent of `p`
where there has been nothing; and only the bytes of what the path leads to have changed. -/
structure IsSaved (f g : Folder) (p : Path) (data : List UInt8) (there : List Text) : Prop where
  start : g.start = f.start
  leads : g.locate true p = .ok there
  taken : HasTaken f g there data
  target : IsOldOrNew f g there
  elsewhere : ∀ names ≠ there, g.place names = f.place names ∨
    f.place names = .nothing ∧ g.place names = .folder ∧ g.IsOnWay p.parent names
  others : ∀ number, (g.place there).number? ≠ some number → g.data number = f.data number

/-- Writing after folders have been made on the way. -/
theorem isSaved_of_isPut (hgrows : Grows f made p.parent) (hlocate : made.locate true p = .ok there)
    (hput : IsPut made g there data) : IsSaved f g p data there where
  start := hput.start.trans hgrows.start
  leads := hput.isPart.locate hlocate
  taken := by
    have htaken := hput.taken
    unfold HasTaken at htaken ⊢
    rw [hgrows.data] at htaken
    exact htaken
  target := by
    rcases hgrows.place there with hsame | ⟨-, hfolder, -⟩
    · unfold IsOldOrNew
      rw [← hsame, ← hgrows.next]
      exact hput.target
    · -- nothing is written to a folder
      have htaken := hput.taken
      unfold HasTaken at htaken
      rw [hput.isPart.place_of_eq hfolder nofun] at htaken
      exact htaken.elim
  elsewhere names hne := by
    rw [hput.elsewhere names hne]
    exact (hgrows.place names).imp_right fun ⟨hnothing, hfolder, hway⟩ =>
      ⟨hnothing, hfolder, hway.mono hput.isPart⟩
  others number hnumber := by
    rw [hput.others number hnumber, hgrows.data]

/-- First folders are made, then the file is written; either may be where it ends. -/
theorem save_cases (f : Folder) (p : Path) (data : List UInt8) :
    ∃ made, Grows f made p.parent ∧
      (f.save r p data = made.write r p data ∨ ∃ e, f.save r p data = .error ⟨e, made⟩) := by
  have hgrows := f.grows_makeFolders (r := r) p.parent (p.names.length + 1)
  unfold save
  cases hmade : f.makeFolders r p.parent (p.names.length + 1) with
  | error i =>
    rw [hmade] at hgrows
    exact ⟨i.folder, hgrows, .inr ⟨i.error, rfl⟩⟩
  | ok made =>
    rw [hmade] at hgrows
    exact ⟨made, hgrows, .inl rfl⟩

/-- Writing puts all bytes there. If it is interrupted, the folder is as before, or the first of the
bytes are there. -/
theorem write_cases (f : Folder) (p : Path) (data : List UInt8) :
    (∃ there g, f.locate true p = .ok there ∧ IsPut f g there data ∧ f.write r p data = .ok g) ∨
      ∃ i, f.write r p data = .error i ∧ (i.folder = f ∨
        ∃ there count, f.locate true p = .ok there ∧ IsPut f i.folder there (data.take count)) := by
  unfold write
  split
  · exact .inr ⟨_, rfl, .inl rfl⟩
  · exact .inr ⟨_, rfl, .inl rfl⟩
  · rename_i there _ hlocate
    split
    · cases hput : f.put there data with
      | error fault => exact .inr ⟨_, rfl, .inl rfl⟩
      | ok g => exact .inl ⟨there, g, hlocate, isPut_put hput, rfl⟩
    · rename_i count reason _
      cases hput : f.put there (data.take count) with
      | error fault => exact .inr ⟨_, rfl, .inl rfl⟩
      | ok g => exact .inr ⟨_, rfl, .inr ⟨there, count, hlocate, isPut_put hput⟩⟩

/-- A file that can be saved is saved. -/
theorem isSaved_save (hsave : f.save r p data = .ok g) : ∃ there, IsSaved f g p data there := by
  obtain ⟨made, hgrows, hwritten | ⟨e, hfailed⟩⟩ := f.save_cases (r := r) p data
  · rw [hwritten] at hsave
    rcases made.write_cases (r := r) p data with ⟨there, g', hlocate, hput, hdone⟩ | ⟨i, hbroken, -⟩
    · rw [hdone] at hsave
      obtain rfl := Except.ok.inj hsave
      exact ⟨there, isSaved_of_isPut hgrows hlocate hput⟩
    · rw [hbroken] at hsave
      cases hsave
  · rw [hfailed] at hsave
    cases hsave

/-- When a file cannot be saved, at most folders have been made and the first bytes written. -/
theorem grows_or_isSaved_of_save_eq_error {i : Interruption} (hsave : f.save r p data = .error i) :
    Grows f i.folder p.parent ∨ ∃ there count, IsSaved f i.folder p (data.take count) there := by
  obtain ⟨made, hgrows, hwritten | ⟨e, hfailed⟩⟩ := f.save_cases (r := r) p data
  · rw [hwritten] at hsave
    rcases made.write_cases (r := r) p data with ⟨_, _, -, -, hdone⟩ | ⟨i', hbroken, hleft⟩
    · rw [hdone] at hsave
      cases hsave
    · rw [hbroken] at hsave
      obtain rfl := Except.error.inj hsave
      rcases hleft with hsame | ⟨there, count, hlocate, hput⟩
      · rw [hsame]
        exact .inl hgrows
      · exact .inr ⟨there, count, isSaved_of_isPut hgrows hlocate hput⟩
  · rw [hfailed] at hsave
    obtain rfl := Except.error.inj hsave
    exact .inl hgrows

namespace IsSaved

/-- Saving removes nothing. -/
theorem isPart (hs : IsSaved f g p data there) : IsPart f g where
  start := hs.start
  place names := by
    by_cases heq : names = there
    · rw [heq]
      exact hs.target.imp_right fun ⟨hnothing, hnew⟩ => ⟨hnothing, .inr ⟨_, hnew⟩⟩
    · exact (hs.elsewhere names heq).imp_right fun ⟨hnothing, hfolder, _⟩ => ⟨hnothing, .inl hfolder⟩

/-- A file keeps its bytes, unless the path that has been saved leads to it. -/
theorem bytes?_eq {old : List UInt8} (hs : IsSaved f g p data there) (hbytes : f.bytes? q = some old)
    (hother : ¬ g.SameFile q p) : g.bytes? q = some old := by
  obtain ⟨names, number, hlocate, hplace, rfl⟩ := bytes?_eq_some_iff.mp hbytes
  have hlocate' : g.locate true q = .ok names := hs.isPart.locate hlocate
  have hplace' : g.place names = .file number := hs.isPart.place_of_eq hplace nofun
  -- otherwise both paths would lead to one number
  have hnumber : (g.place there).number? ≠ some number := by
    intro hsame
    refine hother ⟨number, ?_, ?_⟩
    · rw [number?_of_locate hlocate', hplace']
      rfl
    · rw [number?_of_locate hs.leads, hsame]
  exact bytes?_eq_some_iff.mpr ⟨names, number, hlocate', hplace', hs.others number hnumber⟩

/-- Where a file has been saved into another one, their paths lead to one place, or the file has had two
names before. A file that is new cannot be the cause: its number has not been in use. -/
theorem sameFile_cases {old : List UInt8} (hs : IsSaved f g p data there)
    (hbytes : f.bytes? q = some old) (hsame : g.SameFile q p) :
    f.locate true q = .ok there ∨ f.HasOtherName q := by
  obtain ⟨names, number, hlocate, hplace, -⟩ := bytes?_eq_some_iff.mp hbytes
  have hplace' : g.place names = .file number := hs.isPart.place_of_eq hplace nofun
  obtain ⟨same, hq, hp⟩ := hsame
  rw [number?_of_locate (hs.isPart.locate hlocate), hplace'] at hq
  obtain rfl : number = same := Option.some.inj hq
  rw [number?_of_locate hs.leads] at hp
  rcases hs.target with hold | ⟨-, hnew⟩
  · by_cases heq : names = there
    · exact .inl (heq ▸ hlocate)
    · refine .inr ⟨names, there, number, hlocate, fun h => heq h.symm, by rw [hplace]; rfl, ?_⟩
      rw [← hold, hp]
  · rw [hnew] at hp
    have hlt := f.numbered names number (by rw [hplace]; rfl)
    rw [← Option.some.inj hp] at hlt
    exact absurd hlt (Nat.lt_irrefl _)

end IsSaved

/-! ## Another ending

A path and the one with another ending have one parent, so they lead beside each other unless one of
them is a link. -/

/-- The path with another ending leads to another place. -/
theorem exists_locate_withEnding {ending : Text} (hlong : 2 < ending.length)
    (hother : p.withEnding ending ≠ p) (hlink : ¬ f.IsLink p) (hlink' : ¬ f.IsLink (p.withEnding ending))
    (hlocate : f.locate true p = .ok there) :
    ∃ beside, f.locate true (p.withEnding ending) = .ok beside ∧ beside ≠ there := by
  rcases List.eq_nil_or_concat p.names with hnil | ⟨init, last, hnames⟩
  · exact absurd (by simp [Path.withEnding, hnil]) hother
  · rw [List.concat_eq_append] at hnames
    rw [Path.names_withEnding hnames] at hother hlink' ⊢
    rw [(f.locate_through p).resolve_right hlink] at hlocate
    obtain ⟨dir, rfl, hbeside⟩ := locate_sibling hnames hlocate
    refine ⟨step dir (Path.stem last ++ ending), ?_, fun hstep => ?_⟩
    · rw [(f.locate_through _).resolve_right hlink']
      exact hbeside _
    · -- the new name is longer than the one that leads back
      have hback : Text.isLiteral ".." (Path.stem last ++ ending) = false := by
        rw [Text.isLiteral, decide_eq_false_iff_not]
        intro heq
        have hlength := congrArg List.length heq
        rw [List.length_append] at hlength
        have htwo : (Text.ofString "..").length = 2 := rfl
        omega
      unfold step at hstep
      rw [hback] at hstep
      split at hstep
      · exact Bool.false_ne_true ‹_›
      · split at hstep
        · -- one leads back, the other further
          have hlength := congrArg List.length hstep
          simp at hlength
          omega
        · have hlast : Path.stem last ++ ending = last := by simpa using hstep
          exact hother (by rw [hlast, ← hnames])

end Wordsmith.Folder
