/-!
# Stencil setups

The stencil bits that passes of a high definition render pipeline write.
-/

namespace PassForge.Stencil

/-! ### Bits -/

/-- The bits that hold the kind of lighting. -/
def lightingMask : Nat := 7

/-- No lighting. -/
def noLighting : Nat := 0

/-- Lighting with diffuse and specular parts apart. -/
def splitLighting : Nat := 1

/-- Lighting as usual. -/
def regularLighting : Nat := 2

/-- The surface takes decals and writes normals. -/
def decals : Nat := 16

/-- The surface takes no screen space reflections. -/
def noReflections : Nat := 32

/-- The surface writes its own motion vectors. -/
def motionVectors : Nat := 128

/-- The kind of lighting of a surface. -/
def lighting (split : Bool) : Nat := if split then splitLighting else regularLighting

/-! ### Setups -/

/-- The setup that writes some bits. -/
def setup (mask reference : Nat) : List String :=
  ["// Stencil setup", "Stencil", "\x7b",
    "   WriteMask " ++ toString mask,
    "   Ref  " ++ toString reference,
    "   Comp Always", "   Pass Replace", "\x7d"]

/-- The setup of a pass that writes depth or motion vectors. -/
def depthOrMotion (receiveDecals receiveReflections objectMotion : Bool) : List String :=
  let motion := if objectMotion then motionVectors else 0
  setup (decals ||| noReflections ||| motion)
    ((if receiveDecals then decals else 0) ||| (if receiveReflections then 0 else noReflections) |||
      motion)

/-- The setup of a forward pass. -/
def forward (split : Bool) : List String := setup lightingMask (lighting split)

/-- The setup of a forward pass without lighting. -/
def forwardUnlit : List String := setup lightingMask noLighting

/-- The setup of a pass that writes the buffers of deferred lighting. -/
def gbuffer (receiveReflections split : Bool) : List String :=
  setup (lightingMask ||| noReflections ||| decals)
    (lighting split ||| (if receiveReflections then 0 else noReflections))

end PassForge.Stencil
