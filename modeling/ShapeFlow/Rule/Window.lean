import ShapeFlow.Rule.Parameter

/-!
Windows that slide over the spatial axes of an input, and the rules of the layers that use them. The
first two dimensions of an input are the batch and the channels.
-/

namespace ShapeFlow.Rule

inductive Padding where
  | explicit
  | valid
  | same
  deriving DecidableEq

structure WindowAxis where
  kernel : Dim
  stride : Dim
  padBegin : Dim
  padEnd : Dim
  dilation : Dim
  deriving DecidableEq

structure Window where
  axes : List WindowAxis
  padding : Padding
  deriving DecidableEq

inductive WindowDefect where
  | overflow
  | tooSmall
  deriving DecidableEq

def WindowDefect.toError (op : String) (input : Shape) : WindowDefect → RuleError
  | .overflow => .overflow op input
  | .tooSmall => .shapeTooSmall op input

namespace WindowAxis

/-- The extent of a dilated kernel; an empty kernel counts as one of size 1. -/
def effectiveKernel? (axis : WindowAxis) : Option Dim :=
  (Dim.mul? (max axis.kernel 1 - 1) axis.dilation).bind (Dim.add? · 1)

def paddedSize? (axis : WindowAxis) (padding : Padding) (size : Dim) : Option Dim :=
  match padding with
  | .valid => some size
  | _ => (Dim.add? size axis.padBegin).bind (Dim.add? · axis.padEnd)

/-- The number of positions of the window over an input of the given size. -/
def positions (axis : WindowAxis) (padding : Padding) (roundUp : Bool) (size : Dim) :
    Except WindowDefect Dim :=
  if padding = .same then .ok (Dim.ceilDiv size axis.stride)
  else
    match axis.effectiveKernel? with
    | none => .error .overflow
    | some extent =>
      match axis.paddedSize? padding size with
      | none => .error .overflow
      | some padded =>
        if padded < extent then .error .tooSmall
        else
          let span := padded - extent
          .ok ((if roundUp then Dim.ceilDiv span axis.stride else span / axis.stride) + 1)

end WindowAxis

namespace Window

def readPadding (params : Params) : Except RuleError Padding :=
  match params.get? "auto_pad" with
  | none | some "" | some "explicit" => .ok .explicit
  | some "valid" => .ok .valid
  | some "same_upper" | some "same_lower" => .ok .same
  | some other => .error (.invalidParameter "auto_pad" other)

/-- A list with one entry per axis, filled with `default` if it is not given. -/
def readPerAxis (params : Params) (rank : Nat) (name : String) (default : Dim) :
    Except RuleError (List Dim) := do
  let values := (← list? Text.dim? params name).getD (List.replicate rank default)
  if values.length = rank then .ok values else .error (invalid params name)

def ofParams (params : Params) : Except RuleError Window := do
  let kernel ← list? Text.dim? params "kernel" >>= required "kernel"
  let rank := kernel.length
  let strides ← readPerAxis params rank "strides" 1
  let padsBegin ← readPerAxis params rank "pads_begin" 0
  let padsEnd ← readPerAxis params rank "pads_end" 0
  let dilations ← readPerAxis params rank "dilations" 1
  let padding ← readPadding params
  if strides.contains 0 then .error (invalid params "strides")
  else
    let pads := padsBegin.zip padsEnd
    .ok ⟨(((kernel.zip strides).zip pads).zip dilations).map
      fun (((kernel, stride), padBegin, padEnd), dilation) =>
        ⟨kernel, stride, padBegin, padEnd, dilation⟩, padding⟩

def outputDims (window : Window) (op : String) (input : Shape) (roundUp : Bool) :
    Except RuleError (List Dim) :=
  let rank := window.axes.length
  if input.length ≠ rank + 2 then .error (.invalidRank (rank + 2) input.length)
  else
    let positions (pair : WindowAxis × Dim) := pair.1.positions window.padding roundUp pair.2
    match (window.axes.zip (input.drop 2)).mapM positions with
    | .ok dims => .ok dims
    | .error defect => .error (defect.toError op input)

end Window

/-- The output channels are a parameter or the leading dimension of the second input. -/
def outputChannels (inputs : List Shape) (params : Params) : Except RuleError Dim := do
  match ← scalar? Text.dim? params "output" with
  | some channels => .ok channels
  | none => required "output" (inputs[1]? >>= List.head?)

def convolution : Rule := fun inputs params _ => do
  let input ← firstInput inputs
  let window ← Window.ofParams params
  let channels ← outputChannels inputs params
  let spatial ← window.outputDims "Convolution" input false
  .ok [input.take 1 ++ channels :: spatial]

def readRounding (params : Params) : Except RuleError Bool :=
  match params.get? "rounding_type" with
  | none | some "floor" => .ok false
  | some "ceil" => .ok true
  | some other => .error (.invalidParameter "rounding_type" other)

def pooling : Rule := fun inputs params _ => do
  let input ← firstInput inputs
  let window ← Window.ofParams params
  let roundUp ← readRounding params
  let spatial ← window.outputDims "Pooling" input roundUp
  .ok [input.take 2 ++ spatial]

end ShapeFlow.Rule
