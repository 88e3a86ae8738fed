/-!
# Render state

The fixed-function state of a pass: blending, culling, depth and stencil.  A material asks for a
state (`MaterialOptions`), and a pass may replace parts of it by lines of its own (`Overrides`);
`RenderStates.resolve` gives the text of each part.
-/

namespace PassForge

/-! ### Parts of the state -/

/-- A factor of a blend. -/
inductive BlendFactor where
  | one | zero | srcColor | srcAlpha | dstColor | dstAlpha
  | oneMinusSrcColor | oneMinusSrcAlpha | oneMinusDstColor | oneMinusDstAlpha
deriving DecidableEq, Repr

namespace BlendFactor

/-- All factors. -/
def all : List BlendFactor :=
  [one, zero, srcColor, srcAlpha, dstColor, dstAlpha,
    oneMinusSrcColor, oneMinusSrcAlpha, oneMinusDstColor, oneMinusDstAlpha]

/-- The name of a factor. -/
def name : BlendFactor → String
  | one => "One"
  | zero => "Zero"
  | srcColor => "SrcColor"
  | srcAlpha => "SrcAlpha"
  | dstColor => "DstColor"
  | dstAlpha => "DstAlpha"
  | oneMinusSrcColor => "OneMinusSrcColor"
  | oneMinusSrcAlpha => "OneMinusSrcAlpha"
  | oneMinusDstColor => "OneMinusDstColor"
  | oneMinusDstAlpha => "OneMinusDstAlpha"

end BlendFactor

/-- The faces that are left out. -/
inductive CullMode where
  | back | front | off
deriving DecidableEq, Repr

namespace CullMode

/-- All modes. -/
def all : List CullMode := [back, front, off]

/-- The name of a mode. -/
def name : CullMode → String
  | back => "Back"
  | front => "Front"
  | off => "Off"

end CullMode

/-- The comparison that a fragment's depth has to pass. -/
inductive DepthTest where
  | less | greater | lessEqual | greaterEqual | equal | notEqual | always
deriving DecidableEq, Repr

namespace DepthTest

/-- All comparisons. -/
def all : List DepthTest := [less, greater, lessEqual, greaterEqual, equal, notEqual, always]

/-- The name of a comparison. -/
def name : DepthTest → String
  | less => "Less"
  | greater => "Greater"
  | lessEqual => "LEqual"
  | greaterEqual => "GEqual"
  | equal => "Equal"
  | notEqual => "NotEqual"
  | always => "Always"

end DepthTest

/-- Whether depth is written. -/
inductive DepthWrite where
  | on | off
deriving DecidableEq, Repr

namespace DepthWrite

/-- Both choices. -/
def all : List DepthWrite := [on, off]

/-- The name of a choice. -/
def name : DepthWrite → String
  | on => "On"
  | off => "Off"

end DepthWrite

/-- Whether depth is clipped. -/
inductive DepthClip where
  | clipped | unclipped
deriving DecidableEq, Repr

namespace DepthClip

/-- Both choices. -/
def all : List DepthClip := [clipped, unclipped]

/-- The name of a choice. -/
def name : DepthClip → String
  | clipped => "True"
  | unclipped => "False"

end DepthClip

/-- Whether a surface covers what is behind it. -/
inductive SurfaceType where
  | opaqueSurface | transparentSurface
deriving DecidableEq, Repr

namespace SurfaceType

/-- Both types. -/
def all : List SurfaceType := [opaqueSurface, transparentSurface]

/-- The name of a type. -/
def name : SurfaceType → String
  | opaqueSurface => "Opaque"
  | transparentSurface => "Transparent"

end SurfaceType

/-- What the alpha of a transparent surface does. -/
inductive AlphaMode where
  | alpha | premultiply | additive | multiply
deriving DecidableEq, Repr

namespace AlphaMode

/-- All modes. -/
def all : List AlphaMode := [alpha, premultiply, additive, multiply]

/-- The name of a mode. -/
def name : AlphaMode → String
  | alpha => "Alpha"
  | premultiply => "Premultiply"
  | additive => "Additive"
  | multiply => "Multiply"

end AlphaMode

/-! ### Materials -/

/-- The state a material asks for. -/
structure MaterialOptions where
  srcBlend : BlendFactor := .one
  dstBlend : BlendFactor := .zero
  /-- Factors for alpha alone; without them alpha is blended like color. -/
  alphaBlend : Option (BlendFactor × BlendFactor) := none
  cullMode : CullMode := .back
  depthTest : DepthTest := .lessEqual
  depthWrite : DepthWrite := .on
  depthClip : DepthClip := .clipped
  /-- The level of detail. -/
  lod : Nat := 200
deriving DecidableEq, Repr

namespace MaterialOptions

/-- The factor for what is behind a transparent surface. -/
def behind (mode : AlphaMode) (refraction : Bool) : BlendFactor :=
  if !refraction && mode == .additive then .one else .oneMinusSrcAlpha

/-- The state of a surface.  A transparent surface does not write depth, and is blended as if its
color had been multiplied by alpha; an additive one adds up, unless it refracts.  Off screen, its
alpha does not count. -/
def ofSurface (surface : SurfaceType) (mode : AlphaMode) (twoSided refraction offscreen : Bool) :
    MaterialOptions :=
  let cullMode : CullMode := if twoSided then .off else .back
  match surface with
  | .opaqueSurface => { cullMode }
  | .transparentSurface =>
    { dstBlend := behind mode refraction
      alphaBlend := some (if offscreen then .zero else .one, behind mode refraction)
      depthWrite := .off
      cullMode }

/-- The line that sets the blend. -/
def blendLine (m : MaterialOptions) : String :=
  let color := "Blend " ++ m.srcBlend.name ++ " " ++ m.dstBlend.name
  match m.alphaBlend with
  | some (src, dst) => color ++ ", " ++ src.name ++ " " ++ dst.name
  | none => color

end MaterialOptions

/-! ### Passes -/

/-- Lines that a pass puts in place of the state of the material. -/
structure Overrides where
  blend : Option String := none
  /-- A line after the blend. -/
  blendOp : Option String := none
  cull : Option String := none
  depthTest : Option String := none
  depthWrite : Option String := none
  colorMask : Option String := none
  stencil : Option (List String) := none
deriving DecidableEq, Repr

/-- The text of each part of the state. -/
structure RenderStates where
  blending : String
  culling : String
  depthTest : String
  depthWrite : String
  depthClip : String
  stencil : String
  colorMask : String
  lod : String
deriving DecidableEq, Repr

namespace RenderStates

/-- What a pass and a material make of the state: lines of the pass come first. -/
def resolve (o : Overrides) (m : MaterialOptions) : RenderStates where
  blending := o.blend.getD m.blendLine ++ (o.blendOp.map ("\n" ++ ·)).getD ""
  culling := o.cull.getD ("Cull " ++ m.cullMode.name)
  depthTest := o.depthTest.getD ("ZTest " ++ m.depthTest.name)
  depthWrite := o.depthWrite.getD ("ZWrite " ++ m.depthWrite.name)
  depthClip := "ZClip " ++ m.depthClip.name
  stencil := (o.stencil.map ("\n".intercalate ·)).getD "// Default Stencil"
  colorMask := o.colorMask.getD ""
  lod := toString m.lod

end RenderStates

end PassForge
