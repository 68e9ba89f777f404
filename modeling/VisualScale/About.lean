/-!
# About

What the library says about itself.
-/

namespace VisualScale

/-- The version of the scale layer. -/
def version : String := "0.1.0"

/-- The contract of the scale layer in a few lines. -/
def about : String :=
  "\n".intercalate
    [ "markscale " ++ version
    , "Invocation: scale(*values) captures arguments unevaluated and returns a ScaleBinding."
    , "Resolution: attributes from get_attributes() are resolved to expressions, then " ++
        "get_expression() builds the node."
    , "Custom scales: expression text is parsed once; output type is inferred on every invocation."
    , "Evaluation: never performed here; zero-width or non-positive log domains surface " ++
        "downstream." ]

end VisualScale
