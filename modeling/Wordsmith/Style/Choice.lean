import Wordsmith.Style.Measured
import Wordsmith.Style.Preset

/-!
# Choosing a style

A style is chosen by the name of a preset, or given in stored units, or given in familiar units. Only
a name that stands for nothing and a length without a number of twips leave no style.
-/

namespace Wordsmith

inductive StyleChoice where
  | preset (name : Text)
  | exact (style : Style)
  | measured (style : MeasuredStyle)

/-- Why a choice leaves no style. -/
inductive StyleError where
  | name (e : NameError)
  | length (e : LengthError)
deriving DecidableEq

def StyleError.message : StyleError → Text
  | .name e => e.message
  | .length e => e.message

namespace StyleChoice

def standard : StyleChoice := .preset "default"

def style : StyleChoice → Except StyleError Style
  | .preset name => ((Preset.ofName name).mapError .name).map Preset.style
  | .exact style => .ok style
  | .measured style => style.measure.mapError .length

/-- The style of a preset with other paper and another link mode, where names for them are given. An
empty name counts as none. The preset is looked up first, then the paper, then the link mode. -/
def presetWith (preset : Text) (paper linkMode : Option Text) : Except NameError Style := do
  let style := (← Preset.ofName preset).style
  let style ←
    match paper.filter (!·.isEmpty) with
    | none => pure style
    | some name => pure { style with pageSize := (← Paper.ofName name).pageSize }
  match linkMode.filter (!·.isEmpty) with
  | none => return style
  | some name => return { style with linkMode := ← LinkMode.ofName name }

end StyleChoice

end Wordsmith
