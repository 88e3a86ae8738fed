/-!
# Requirements

What a node needs from its stage: vectors in coordinate spaces, channels of texture coordinates, and
a few single inputs.  Requirements are combined by `union`.

Every `Need` is an input that a stage can offer as a member of its input struct; `fields` lists the
names of the members that a set of requirements asks for, in the fixed order `Need.all`.  The two
texture requirements are no inputs: they turn into defines.
-/

namespace PassForge

/-- A stage of the shader. -/
inductive Stage where
  | vertex | pixel
deriving DecidableEq, Repr

/-- A coordinate space. -/
inductive Space where
  | object | view | world | tangent
deriving DecidableEq, Repr

namespace Space

/-- All spaces, in the order in which members are listed. -/
def all : List Space := [object, view, world, tangent]

/-- The space as a member's name spells it. -/
def name : Space → String
  | object => "ObjectSpace"
  | view => "ViewSpace"
  | world => "WorldSpace"
  | tangent => "TangentSpace"

end Space

/-- A set of coordinate spaces. -/
structure Spaces where
  object : Bool := false
  view : Bool := false
  world : Bool := false
  tangent : Bool := false
deriving DecidableEq, Repr

namespace Spaces

/-- Whether a space is in the set. -/
def has (s : Spaces) : Space → Bool
  | .object => s.object
  | .view => s.view
  | .world => s.world
  | .tangent => s.tangent

/-- The spaces of either set. -/
def union (s t : Spaces) : Spaces :=
  ⟨s.object || t.object, s.view || t.view, s.world || t.world, s.tangent || t.tangent⟩

@[simp] theorem has_union (s t : Spaces) (x : Space) :
    (s.union t).has x = (s.has x || t.has x) := by
  cases x <;> rfl

/-- The set whose spaces are the bits of a number, in the order of `Space.all`. -/
def ofBits (n : Nat) : Spaces := ⟨n.testBit 0, n.testBit 1, n.testBit 2, n.testBit 3⟩

/-- The number whose bits are the spaces of the set. -/
def bits (s : Spaces) : Nat :=
  s.object.toNat + 2 * s.view.toNat + 4 * s.world.toNat + 8 * s.tangent.toNat

end Spaces

/-- A channel of texture coordinates. -/
inductive Channel where
  | uv0 | uv1 | uv2 | uv3
deriving DecidableEq, Repr

namespace Channel

/-- All channels, in the order in which members are listed. -/
def all : List Channel := [uv0, uv1, uv2, uv3]

/-- The number of a channel. -/
def index : Channel → Nat
  | uv0 => 0
  | uv1 => 1
  | uv2 => 2
  | uv3 => 3

/-- The channel as a member's name spells it. -/
def name : Channel → String
  | uv0 => "uv0"
  | uv1 => "uv1"
  | uv2 => "uv2"
  | uv3 => "uv3"

/-- The channel with a number. -/
def ofIndex? (n : Nat) : Option Channel := all[n]?

/-- The bit that stands for a channel. -/
def bit (c : Channel) : Nat := 1 <<< c.index

end Channel

/-- A set of channels of texture coordinates. -/
structure Channels where
  uv0 : Bool := false
  uv1 : Bool := false
  uv2 : Bool := false
  uv3 : Bool := false
deriving DecidableEq, Repr

namespace Channels

/-- Whether a channel is in the set. -/
def has (c : Channels) : Channel → Bool
  | .uv0 => c.uv0
  | .uv1 => c.uv1
  | .uv2 => c.uv2
  | .uv3 => c.uv3

/-- The channels of either set. -/
def union (c d : Channels) : Channels :=
  ⟨c.uv0 || d.uv0, c.uv1 || d.uv1, c.uv2 || d.uv2, c.uv3 || d.uv3⟩

@[simp] theorem has_union (c d : Channels) (x : Channel) :
    (c.union d).has x = (c.has x || d.has x) := by
  cases x <;> rfl

/-- The set of the channels in a list. -/
def ofList (l : List Channel) : Channels :=
  ⟨l.contains .uv0, l.contains .uv1, l.contains .uv2, l.contains .uv3⟩

/-- The channels of the set, in increasing order. -/
def toList (c : Channels) : List Channel := Channel.all.filter c.has

end Channels

/-- A vector that can be needed in a coordinate space. -/
inductive VectorKind where
  | normal | tangent | bitangent | viewDirection | position
deriving DecidableEq, Repr

namespace VectorKind

/-- All kinds, in the order in which members are listed. -/
def all : List VectorKind := [normal, tangent, bitangent, viewDirection, position]

/-- The kind as a member's name spells it. -/
def name : VectorKind → String
  | normal => "Normal"
  | tangent => "Tangent"
  | bitangent => "BiTangent"
  | viewDirection => "ViewDirection"
  | position => "Position"

end VectorKind

/-- An input that a stage can offer. -/
inductive Need where
  | screenPosition
  | vertexColor
  /-- Which side of a face is seen; only the pixel stage can tell. -/
  | faceSign
  | vector (kind : VectorKind) (space : Space)
  | uv (channel : Channel)
deriving DecidableEq, Repr

namespace Need

/-- All inputs, in the order in which members are listed. -/
def all : List Need :=
  [screenPosition, vertexColor, faceSign] ++
    (VectorKind.all.flatMap fun kind => Space.all.map (vector kind)) ++ Channel.all.map uv

/-- The name of the member that holds the input. -/
def field : Need → String
  | screenPosition => "ScreenPosition"
  | vertexColor => "VertexColor"
  | faceSign => "FaceSign"
  | vector kind space => space.name ++ kind.name
  | uv channel => channel.name

/-- Whether a stage offers the input. -/
def availableIn (stage : Stage) : Need → Bool
  | faceSign => stage == .pixel
  | _ => true

end Need

/-- What a group of nodes needs. -/
structure Requirements where
  normal : Spaces := {}
  tangent : Spaces := {}
  bitangent : Spaces := {}
  viewDirection : Spaces := {}
  position : Spaces := {}
  uv : Channels := {}
  screenPosition : Bool := false
  vertexColor : Bool := false
  faceSign : Bool := false
  depthTexture : Bool := false
  opaqueTexture : Bool := false
deriving DecidableEq, Repr

namespace Requirements

/-- No requirement. -/
def none : Requirements := {}

/-- Whether nothing is needed. -/
def isEmpty (r : Requirements) : Bool := r == none

/-- What either side needs. -/
def union (r s : Requirements) : Requirements where
  normal := r.normal.union s.normal
  tangent := r.tangent.union s.tangent
  bitangent := r.bitangent.union s.bitangent
  viewDirection := r.viewDirection.union s.viewDirection
  position := r.position.union s.position
  uv := r.uv.union s.uv
  screenPosition := r.screenPosition || s.screenPosition
  vertexColor := r.vertexColor || s.vertexColor
  faceSign := r.faceSign || s.faceSign
  depthTexture := r.depthTexture || s.depthTexture
  opaqueTexture := r.opaqueTexture || s.opaqueTexture

/-- The spaces in which a vector is needed. -/
def spaces (r : Requirements) : VectorKind → Spaces
  | .normal => r.normal
  | .tangent => r.tangent
  | .bitangent => r.bitangent
  | .viewDirection => r.viewDirection
  | .position => r.position

/-- Whether an input is needed. -/
def has (r : Requirements) : Need → Bool
  | .screenPosition => r.screenPosition
  | .vertexColor => r.vertexColor
  | .faceSign => r.faceSign
  | .vector kind space => (r.spaces kind).has space
  | .uv channel => r.uv.has channel

@[simp] theorem has_union (r s : Requirements) (n : Need) :
    (r.union s).has n = (r.has n || s.has n) := by
  cases n with
  | vector kind space => cases kind <;> exact Spaces.has_union ..
  | uv channel => exact Channels.has_union ..
  | _ => rfl

/-- The inputs that a stage has to offer. -/
def needs (r : Requirements) (stage : Stage) : List Need :=
  Need.all.filter fun n => r.has n && n.availableIn stage

/-- The names of the members that hold the inputs a stage has to offer. -/
def fields (r : Requirements) (stage : Stage) : List String := (r.needs stage).map Need.field

end Requirements

end PassForge
