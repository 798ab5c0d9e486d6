import ShapeFlow.Rule.Pointwise
import ShapeFlow.Rule.Window
import ShapeFlow.Rule.Arrangement

/-!
The layer types with a rule of their own.
-/

namespace ShapeFlow.Rule

def builtInTypes : List String :=
  ["Input", "Const", "Memory", "ReLU", "Sigmoid", "TanH", "ELU", "Clamp", "Activation", "Power",
    "ScaleShift", "BatchNormalization", "Normalize", "Norm", "LRN", "SoftMax", "Dropout", "Copy",
    "Eltwise", "Convolution", "Pooling", "Concat", "FullyConnected", "InnerProduct", "Reshape",
    "Permute"]

/-- The types that leave the shape of their first input unchanged. -/
def identityTypes : List String :=
  ["relu", "sigmoid", "tanh", "elu", "clamp", "activation", "power", "scaleshift",
    "batchnormalization", "normalize", "norm", "lrn", "softmax", "dropout", "copy"]

def builtInOfLower (typeName : String) : Option Rule :=
  if typeName ∈ identityTypes then some identity
  else
    match typeName with
    | "input" | "const" => some source
    | "memory" => some memory
    | "eltwise" => some eltwise
    | "convolution" => some convolution
    | "pooling" => some pooling
    | "concat" => some concat
    | "fullyconnected" | "innerproduct" => some fullyConnected
    | "reshape" => some reshape
    | "permute" => some permute
    | _ => none

def builtIn? (typeName : String) : Option Rule :=
  builtInOfLower (Caseless.lower typeName)

end ShapeFlow.Rule
