import ControlChannel.KeyMap
import ControlChannel.Message.Basic

/-!
# Inputs of video constraints

An endpoint says which others it has pinned, which it has selected, and how high a frame it takes.
The last word on each is an input, and the constraints it places on senders are a function of the
three inputs. A selection wins over a pin.
-/

namespace ControlChannel

/-- The last pin, selection and frame height that an endpoint sent. -/
structure ConstraintInputs where
  pinned : IdSet
  selected : IdSet
  maxFrameHeight : Int32
  deriving DecidableEq

/-- Constraints by the id of the sender that they are for. -/
abbrev SenderConstraints := KeyMap VideoConstraints

namespace ConstraintInputs

/-- The inputs before anything was sent. -/
def initial (height : Int32) : ConstraintInputs :=
  ⟨.empty, .empty, height⟩

/-- Above this frame height one video is shown large, the others small. -/
def stageThreshold : Int32 := 180

/-- What a selected sender is asked for. -/
def selectedConstraints (height : Int32) : VideoConstraints :=
  if stageThreshold < height then
    { idealHeight := height, preferredHeight := some 360, preferredFps := some 30.0 }
  else .ideal height

/-- The constraints that the inputs make. -/
def constraints (inputs : ConstraintInputs) : SenderConstraints :=
  let pinned := inputs.pinned.toList.foldl
    (fun m id => m.insert id (.ideal inputs.maxFrameHeight)) (.empty : SenderConstraints)
  inputs.selected.toList.foldl
    (fun m id => m.insert id (selectedConstraints inputs.maxFrameHeight)) pinned

end ConstraintInputs

namespace IdSet

/-- The set of one id, or of none if there is no id or a blank one. -/
def ofOption : Option String → IdSet
  | some id => if Text.isBlank id then .empty else IdSet.ofList [id]
  | none => .empty

end IdSet

end ControlChannel
