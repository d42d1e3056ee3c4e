import Wordsmith.CommandLine.Request
import Wordsmith.Style.Choice

/-!
# What a request for a conversion holds

Arguments are read one option at a time. Every step keeps the names of the preset, the paper and the
link mode among those to choose from (`Settings.AreNamed`), since other values are refused where they are
set; and what ends the reading early is not a conversion. So a conversion that has been asked for has an
input, and its settings choose a style.

* `areNamed_set`, `isSound_switchAll`, `isSound_options` — one step.
* `isSound_take`, `isSound_ofArguments` — the whole reading.
* `exists_presetWith` — the style that is chosen.
-/

namespace Wordsmith

/-- A name on the list has a value. -/
theorem exists_lookup?_eq_some {α : Type} {names : List (String × α)} {name : Text}
    (hmem : name ∈ names.map fun entry => Text.ofString entry.1) :
    ∃ value, lookup? names name = some value := by
  obtain ⟨entry, hentry, hname⟩ := List.mem_map.mp hmem
  have hsome : (names.find? fun entry => name.isLiteral entry.1).isSome := by
    rw [List.find?_isSome]
    exact ⟨entry, hentry, decide_eq_true hname.symm⟩
  obtain ⟨found, hfound⟩ := Option.isSome_iff_exists.mp hsome
  exact ⟨found.2, by rw [lookup?, hfound, Option.map_some]⟩

namespace CommandLine

variable {s s' : Settings} {r : Reading} {request : Request}

/-! ## Names to choose from

Three options take a name from a list. The list is checked when the option is read, so later it is
enough that the name is on it. -/

/-- The names in the settings are among those to choose from. -/
structure Settings.AreNamed (s : Settings) : Prop where
  style : s.style ∈ Preset.names.map fun entry => Text.ofString entry.1
  pageSize : ∀ name ∈ s.pageSize, name ∈ Paper.names.map fun entry => Text.ofString entry.1
  linkMode : ∀ name ∈ s.linkMode, name ∈ LinkMode.names.map fun entry => Text.ofString entry.1

/-- To begin with, the preset is the default and the other two are not chosen. -/
theorem areNamed_start : Settings.AreNamed {} := ⟨by decide, nofun, nofun⟩

/-- Names of paper sizes are written in small letters. -/
theorem toLower_of_mem_paperNames {name : Text}
    (hmem : name ∈ Paper.names.map fun entry => Text.ofString entry.1) : name.toLower = name := by
  have hall : ∀ name ∈ Paper.names.map fun entry => Text.ofString entry.1, name.toLower = name := by
    decide
  exact hall name hmem

/-- Settings with names to choose from choose a style. -/
theorem Settings.AreNamed.exists_presetWith (hs : s.AreNamed) :
    ∃ style, StyleChoice.presetWith s.style s.pageSize s.linkMode = .ok style := by
  obtain ⟨preset, hpreset⟩ := exists_lookup?_eq_some hs.style
  have hstyle : Preset.ofName s.style = .ok preset := by
    rw [Preset.ofName, lookup, hpreset, Option.elim_some]
  -- an empty name counts as none; any other has to be found
  have hpaper : ∀ name ∈ s.pageSize.filter (!·.isEmpty), ∃ paper, Paper.ofName name = .ok paper := by
    intro name hname
    have hmem := hs.pageSize name (Option.mem_filter_iff.mp hname).1
    obtain ⟨paper, hpaper⟩ := exists_lookup?_eq_some hmem
    exact ⟨paper, by rw [Paper.ofName, toLower_of_mem_paperNames hmem, hpaper, Option.elim_some]⟩
  have hmode : ∀ name ∈ s.linkMode.filter (!·.isEmpty), ∃ mode, LinkMode.ofName name = .ok mode := by
    intro name hname
    have hmem := hs.linkMode name (Option.mem_filter_iff.mp hname).1
    obtain ⟨mode, hmode⟩ := exists_lookup?_eq_some hmem
    exact ⟨mode, by rw [LinkMode.ofName, lookup, hmode, Option.elim_some]⟩
  unfold StyleChoice.presetWith
  rw [hstyle]
  -- whether the paper and the mode are chosen or not, there is a style
  cases hsize : s.pageSize.filter (!·.isEmpty) with
  | none =>
    cases hlink : s.linkMode.filter (!·.isEmpty) with
    | none => exact ⟨_, rfl⟩
    | some name =>
      obtain ⟨mode, hmode⟩ := hmode name hlink
      exact ⟨_, by simp only [hmode]; rfl⟩
  | some size =>
    obtain ⟨paper, hpaper⟩ := hpaper size hsize
    cases hlink : s.linkMode.filter (!·.isEmpty) with
    | none => exact ⟨_, by simp only [hpaper]; rfl⟩
    | some name =>
      obtain ⟨mode, hmode⟩ := hmode name hlink
      exact ⟨_, by simp only [hpaper, hmode]; rfl⟩

/-! ## One step

A step sets a field, or ends the reading with a request that converts nothing. -/

/-- A conversion has an input and settings that choose a style. -/
def Request.IsSound : Request → Prop
  | .convert input settings =>
    settings.input = some input ∧ input ≠ [] ∧ settings.listStyles = false ∧ settings.AreNamed
  | _ => True

/-- A step keeps the names among those to choose from, or ends with a sound request. -/
def Step.IsSound : Step → Prop
  | .goOn s => s.AreNamed
  | .done request => request.IsSound

/-- A switch sets no name. -/
theorem isSound_switch (hs : s.AreNamed) (o : Opt) : (s.switch o).IsSound := by
  cases o with
  | help | version => trivial
  | listStyles | verbose => exact ⟨hs.style, hs.pageSize, hs.linkMode⟩
  | output | style | pageSize | linkMode | encoding => exact hs

/-- So do switches that are written together. -/
theorem isSound_switchAll (hs : s.AreNamed) (os : List Opt) : (s.switchAll os).IsSound := by
  induction os generalizing s with
  | nil => exact hs
  | cons o os ih =>
    have hfirst := isSound_switch hs o
    rw [Settings.switchAll]
    split
    · rename_i hstep
      rw [hstep] at hfirst
      exact ih hfirst
    · rename_i hstep
      rw [hstep] at hfirst
      exact hfirst

/-- A value that is not among those to choose from is refused. -/
theorem mem_choices_of_set_eq_ok {o : Opt} {value : Text} (hset : s.set o value = .ok s')
    (choices : List Text) (hchoices : o.choices = some choices) : value ∈ choices := by
  unfold Settings.set at hset
  rw [hchoices] at hset
  by_cases hmem : value ∈ choices
  · exact hmem
  · simp [hmem] at hset

/-- An option with a value keeps the names among those to choose from. -/
theorem areNamed_set {o : Opt} {value : Text} (hs : s.AreNamed) (hset : s.set o value = .ok s') :
    s'.AreNamed := by
  have hmem := mem_choices_of_set_eq_ok hset
  unfold Settings.set at hset
  split at hset
  · cases hset
  · cases o with
    -- only three options are names, and their values have been compared with the lists
    | style =>
      cases hset
      exact ⟨hmem _ rfl, hs.pageSize, hs.linkMode⟩
    | pageSize =>
      cases hset
      exact ⟨hs.style, fun name hname => Option.mem_some.mp hname ▸ hmem _ rfl, hs.linkMode⟩
    | linkMode =>
      cases hset
      exact ⟨hs.style, hs.pageSize, fun name hname => Option.mem_some.mp hname ▸ hmem _ rfl⟩
    | help | output | encoding | listStyles | verbose | version =>
      cases hset
      exact ⟨hs.style, hs.pageSize, hs.linkMode⟩

/-- Options either let the reading go on or end it. -/
theorem isSound_options {os : List Opt} {last : Option (Opt × Text)} {next : Reading ⊕ Request}
    (hr : r.settings.AreNamed) (hoptions : r.options os last = .ok next) :
    next.elim (·.settings.AreNamed) Request.IsSound := by
  have hswitched := isSound_switchAll hr os
  unfold Reading.options at hoptions
  split at hoptions
  · rename_i hstep
    rw [hstep] at hswitched
    -- a switch has ended the reading with a request
    cases hoptions
    exact hswitched
  · rename_i settings hstep
    rw [hstep] at hswitched
    -- all switches are taken; then the option with its value, if there is one
    cases last with
    | none =>
      cases hoptions
      exact hswitched
    | some last =>
      cases hset : settings.set last.1 last.2 with
      | error e =>
        simp only [hset] at hoptions
        cases hoptions
      | ok settings' =>
        simp only [hset] at hoptions
        cases hoptions
        exact areNamed_set hswitched hset

/-- At the end a conversion is asked for if there is an input and the presets are not to be listed. -/
theorem isSound_finish (hr : r.settings.AreNamed) (hfinish : r.finish = .ok request) :
    request.IsSound := by
  unfold Reading.finish at hfinish
  split at hfinish
  · split at hfinish
    · cases hfinish
      trivial
    · rename_i hlist
      split at hfinish
      · rename_i hinput
        cases hfinish
        exact ⟨hinput, List.cons_ne_nil _ _, Bool.eq_false_iff.mpr hlist, hr⟩
      · cases hfinish
  · cases hfinish

/-! ## The whole reading

What is read between the options, the words and the mark that ends them, changes no setting with a
name. -/

/-- A word is kept as the input or as one too many. -/
theorem areNamed_word (hr : r.settings.AreNamed) (t : Text) : (r.word t).settings.AreNamed := by
  unfold Reading.word
  split <;> exact ⟨hr.style, hr.pageSize, hr.linkMode⟩

/-- The mark after which there are only words. -/
theorem areNamed_divide (hr : r.settings.AreNamed) : r.divide.settings.AreNamed := by
  unfold Reading.divide
  split <;> exact hr

/-- A word that has to wait. -/
theorem areNamed_passOver (hr : r.settings.AreNamed) (t : Text) :
    (r.passOver t).settings.AreNamed := hr

/-- Options that have been taken let the reading go on, as `next` says, or end it. -/
theorem isSound_bind_options {os : List Opt} {last : Option (Opt × Text)}
    {next : Reading → Except ArgumentError Request} (hr : r.settings.AreNamed)
    (hnext : ∀ r' : Reading, r'.settings.AreNamed → next r' = .ok request → request.IsSound)
    (htake : (r.options os last).bind (Sum.elim next .ok) = .ok request) :
    request.IsSound := by
  cases hoptions : r.options os last with
  | error e =>
    rw [hoptions] at htake
    cases htake
  | ok result =>
    have hsound := isSound_options hr hoptions
    rw [hoptions] at htake
    cases result with
    | inl r' => exact hnext r' hsound htake
    | inr request' =>
      cases htake
      exact hsound

/-- The induction is on the arguments that are still to be read; what they find are settings whose names
are among those to choose from. -/
theorem isSound_take (arguments : List Argument) (hr : r.settings.AreNamed)
    (htake : r.take arguments = .ok request) : request.IsSound := by
  fun_induction Reading.take r arguments with
  | case1 r => exact isSound_finish hr htake
  | case2 r t rest ih => exact ih (areNamed_word hr t) htake
  | case3 r rest ih => exact ih (areNamed_divide hr) htake
  | case4 r t rest ih => exact ih (areNamed_passOver hr t) htake
  -- an argument that is refused, and an option without its value
  | case5 | case10 => cases htake
  | case6 r o behind os rest hbehind ih
  | case8 r o behind os last value rest hbehind ih
  | case9 r o behind os last value rest hbehind ih =>
    exact isSound_bind_options hr (fun r' hr' => ih r' hr') htake
  | case7 r o behind os t rest hbehind ih =>
    exact isSound_bind_options hr (fun r' hr' => ih r' (areNamed_passOver hr' t)) htake

/-- A conversion that is asked for has an input, and its settings choose a style. -/
theorem isSound_ofArguments {arguments : List Text}
    (hrequest : Request.ofArguments arguments = .ok request) : request.IsSound := by
  unfold Request.ofArguments at hrequest
  cases hread : Argument.ofTexts arguments with
  | error e =>
    rw [hread] at hrequest
    cases hrequest
  | ok read =>
    rw [hread] at hrequest
    exact isSound_take read areNamed_start hrequest

end CommandLine

end Wordsmith
