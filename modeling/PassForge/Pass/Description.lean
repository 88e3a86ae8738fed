import PassForge.Graph.Node
import PassForge.Pass.RenderState
import PassForge.Pass.Stencil

/-!
# Passes

What is known of a pass before it is generated: its template, the slots of the root that its stages
evaluate, lines to write, fields that are active in any case, and its render state.

`forward` and `depthOnly` are the passes of the templates of the library.
-/

namespace PassForge

/-- A pass to be generated. -/
structure Pass where
  name : String := ""
  lightMode : String := ""
  /-- What `SHADERPASS` is defined as. -/
  shaderPass : String := ""
  /-- The path of the template. -/
  template : String := ""
  includes : List String := []
  instancingOptions : List String := []
  extraDefines : List String := []
  /-- The slots of the root that the vertex stage evaluates. -/
  vertexSlots : List SlotId := []
  /-- The slots of the root that the pixel stage evaluates. -/
  pixelSlots : List SlotId := []
  /-- Qualified names of fields that are active whatever the graph. -/
  requiredFields : List String := []
  overrides : Overrides := {}
deriving DecidableEq, Repr

namespace Pass

/-- The pass of a name and a template.  Its light mode is called like the pass. -/
def ofTemplate (name template : String) : Pass := { name, template, lightMode := name }

/-! ### Passes of the library -/

/-- The line that includes the code of a pass of the render pipeline. -/
def pipelineInclude (file : String) : String :=
  "#include \"Packages/com.unity.render-pipelines.high-definition/Runtime/RenderPipeline/"
    ++ "ShaderPass/" ++ file ++ "\""

/-- Keywords of the pipeline that every lit pass knows. -/
def litPragmas : List String := [
  "#pragma multi_compile _ DEBUG_DISPLAY",
  "#pragma multi_compile _ LIGHTMAP_ON",
  "#pragma multi_compile _ DIRLIGHTMAP_COMBINED",
  "#pragma multi_compile _ DYNAMICLIGHTMAP_ON",
  "#pragma multi_compile _ SHADOWS_SHADOWMASK",
  "#pragma multi_compile DECALS_OFF DECALS_3RT DECALS_4RT"]

/-- How a forward pass finds its lights. -/
def lightList (solid : Bool) : String :=
  if solid then "#pragma multi_compile USE_FPTL_LIGHTLIST USE_CLUSTERED_LIGHTLIST"
  else "#define USE_CLUSTERED_LIGHTLIST"

/-- The forward pass; `solid` says that the surface is not transparent. -/
def forward (solid : Bool) (pixelSlots vertexSlots : List SlotId) : Pass where
  name := "Forward"
  template := "passes/Forward.template"
  lightMode := "Forward"
  shaderPass := "SHADERPASS_FORWARD"
  extraDefines := litPragmas ++ [lightList solid,
    "#pragma multi_compile SHADOW_LOW SHADOW_MEDIUM SHADOW_HIGH SHADOW_VERY_HIGH"]
  includes := [pipelineInclude "ShaderPassForward.hlsl"]
  pixelSlots := pixelSlots
  vertexSlots := vertexSlots
  requiredFields := ["FragInputs.worldToTangent", "FragInputs.positionRWS",
    "FragInputs.texCoord1", "FragInputs.texCoord2"]
  overrides := { stencil := some (Stencil.forward false) }

/-- The pass that writes depth only. -/
def depthOnly (pixelSlots vertexSlots : List SlotId) : Pass where
  name := "DepthOnly"
  template := "passes/DepthOnly.template"
  lightMode := "DepthOnly"
  shaderPass := "SHADERPASS_DEPTH_ONLY"
  extraDefines := ["#pragma multi_compile _ WRITE_NORMAL_BUFFER",
    "#pragma multi_compile _ WRITE_MSAA_DEPTH"]
  includes := [pipelineInclude "ShaderPassDepthOnly.hlsl"]
  pixelSlots := pixelSlots
  vertexSlots := vertexSlots
  overrides :=
    { colorMask := some "ColorMask 0", stencil := some (Stencil.depthOrMotion true true false) }

end Pass

/-- What holds for all passes. -/
structure Settings where
  /-- The most combinations of keywords that a pass may have. -/
  maxVariants : Nat := 256
  /-- Whether the active fields are listed in comments. -/
  listActiveFields : Bool := false
  /-- Whether the text starts with a comment that names the pass. -/
  headerComment : Bool := true
deriving DecidableEq, Repr

end PassForge
