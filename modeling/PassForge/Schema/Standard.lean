import PassForge.Graph.Requirements
import PassForge.Schema.Registry

/-!
# The standard registry

The structs and dependencies of a high definition render pipeline: what the mesh offers, what passes
from the vertex to the pixel stage, and what the two stages of a material graph read.

What a graph reads leads back, dependency by dependency, to the members of the mesh.
-/

namespace PassForge.Standard

/-! ### Structs -/

/-- The preprocessor condition of instanced drawing. -/
def instancing : String := "UNITY_ANY_INSTANCING_ENABLED"

/-- A member that is always declared. -/
def always (name : String) (type : ValueType) : FieldSchema := { name, type }

/-- A member that is declared if it is active. -/
def ifActive (name : String) (type : ValueType) : FieldSchema := { name, type, optional := true }

/-- A member that is declared if it is active, with a semantic. -/
def ifActiveAs (semantic name : String) (type : ValueType) : FieldSchema :=
  { name, type, optional := true, semantic := some semantic }

/-- The number of the instance that is drawn. -/
def instanceId (semantic : String) : FieldSchema :=
  { name := "instanceID", type := .uint, semantic := some semantic, guard := some instancing }

/-- What the mesh offers. -/
def attributesMesh : StructSchema where
  name := "AttributesMesh"
  fields := [
    { name := "positionOS", type := .float3, semantic := some "POSITION" },
    ifActiveAs "NORMAL" "normalOS" .float3,
    ifActiveAs "TANGENT" "tangentOS" .float4,
    ifActiveAs "TEXCOORD0" "uv0" .float4,
    ifActiveAs "TEXCOORD1" "uv1" .float4,
    ifActiveAs "TEXCOORD2" "uv2" .float4,
    ifActiveAs "TEXCOORD3" "uv3" .float4,
    ifActiveAs "COLOR" "color" .float4,
    instanceId "INSTANCEID_SEMANTIC"]

/-- Texture coordinates and color, as they pass between stages. -/
def surfaceVaryings : List FieldSchema :=
  [ifActive "texCoord0" .float4, ifActive "texCoord1" .float4, ifActive "texCoord2" .float4,
    ifActive "texCoord3" .float4, ifActive "color" .float4, instanceId "CUSTOM_INSTANCE_ID"]

/-- What passes from the vertex to the pixel stage. -/
def varyingsToPixel : StructSchema where
  name := "VaryingsMeshToPS"
  fields := [
    { name := "positionCS", type := .float4, semantic := some "SV_Position" },
    ifActive "positionRWS" .float3,
    ifActive "normalWS" .float3,
    ifActive "tangentWS" .float4] ++ surfaceVaryings ++ [
    { name := "cullFace", type := .bool, semantic := some "FRONT_FACE_SEMANTIC",
      typeOverride := some "FRONT_FACE_TYPE", optional := true,
      guard := some "SHADER_STAGE_FRAGMENT" }]

/-- What passes from the vertex to the domain stage. -/
def varyingsToDomain : StructSchema where
  name := "VaryingsMeshToDS"
  fields := [
    always "positionRWS" .float3,
    always "normalWS" .float3,
    ifActive "tangentWS" .float4] ++ surfaceVaryings

/-- The names of the vectors that a material graph reads. -/
def graphVectors : List String :=
  ["Normal", "Tangent", "BiTangent", "ViewDirection", "Position"].flatMap fun kind =>
    ["ObjectSpace", "ViewSpace", "WorldSpace", "TangentSpace"].map fun space => space ++ kind

/-- What a stage of a material graph reads; only the pixel stage knows the side of a face. -/
def graphInputs (name : String) (stage : Stage) : StructSchema where
  name := name
  fields := (graphVectors.map fun vector => ifActive vector .float3) ++ [
    ifActive "ScreenPosition" .float4,
    ifActive "uv0" .float4,
    ifActive "uv1" .float4,
    ifActive "uv2" .float4,
    ifActive "uv3" .float4,
    ifActive "VertexColor" .float4] ++
    match stage with
    | .pixel => [ifActive "FaceSign" .float]
    | .vertex => []

/-! ### Dependencies -/

/-- A table of dependencies, given as pairs of a field and one that it needs. -/
def table (name : String) (edges : List (String × String)) : DependencyTable :=
  ⟨name, edges.map fun (consumer, producer) => ⟨consumer, producer⟩⟩

/-- What the inputs of a fragment need. -/
def fragmentInputs : DependencyTable := table "FragInputs" [
  ("FragInputs.positionRWS", "VaryingsMeshToPS.positionRWS"),
  ("FragInputs.worldToTangent", "VaryingsMeshToPS.tangentWS"),
  ("FragInputs.worldToTangent", "VaryingsMeshToPS.normalWS"),
  ("FragInputs.texCoord0", "VaryingsMeshToPS.texCoord0"),
  ("FragInputs.texCoord1", "VaryingsMeshToPS.texCoord1"),
  ("FragInputs.texCoord2", "VaryingsMeshToPS.texCoord2"),
  ("FragInputs.texCoord3", "VaryingsMeshToPS.texCoord3"),
  ("FragInputs.color", "VaryingsMeshToPS.color"),
  ("FragInputs.isFrontFace", "VaryingsMeshToPS.cullFace")]

/-- What passes to the pixel stage needs from the mesh. -/
def varyings : DependencyTable := table "VaryingsMeshToPS" [
  ("VaryingsMeshToPS.positionRWS", "AttributesMesh.positionOS"),
  ("VaryingsMeshToPS.normalWS", "AttributesMesh.normalOS"),
  ("VaryingsMeshToPS.tangentWS", "AttributesMesh.tangentOS"),
  ("VaryingsMeshToPS.texCoord0", "AttributesMesh.uv0"),
  ("VaryingsMeshToPS.texCoord1", "AttributesMesh.uv1"),
  ("VaryingsMeshToPS.texCoord2", "AttributesMesh.uv2"),
  ("VaryingsMeshToPS.texCoord3", "AttributesMesh.uv3"),
  ("VaryingsMeshToPS.color", "AttributesMesh.color"),
  ("VaryingsMeshToPS.instanceID", "AttributesMesh.instanceID")]

/-- What the pixel stage of a graph needs. -/
def surfaceInputs : DependencyTable := table "SurfaceDescriptionInputs" [
  ("SurfaceDescriptionInputs.WorldSpaceNormal", "FragInputs.worldToTangent"),
  ("SurfaceDescriptionInputs.ObjectSpaceNormal", "SurfaceDescriptionInputs.WorldSpaceNormal"),
  ("SurfaceDescriptionInputs.ViewSpaceNormal", "SurfaceDescriptionInputs.WorldSpaceNormal"),
  ("SurfaceDescriptionInputs.WorldSpaceTangent", "FragInputs.worldToTangent"),
  ("SurfaceDescriptionInputs.ObjectSpaceTangent", "SurfaceDescriptionInputs.WorldSpaceTangent"),
  ("SurfaceDescriptionInputs.ViewSpaceTangent", "SurfaceDescriptionInputs.WorldSpaceTangent"),
  ("SurfaceDescriptionInputs.WorldSpaceBiTangent", "FragInputs.worldToTangent"),
  ("SurfaceDescriptionInputs.ObjectSpaceBiTangent",
    "SurfaceDescriptionInputs.WorldSpaceBiTangent"),
  ("SurfaceDescriptionInputs.ViewSpaceBiTangent", "SurfaceDescriptionInputs.WorldSpaceBiTangent"),
  ("SurfaceDescriptionInputs.WorldSpacePosition", "FragInputs.positionRWS"),
  ("SurfaceDescriptionInputs.ObjectSpacePosition", "FragInputs.positionRWS"),
  ("SurfaceDescriptionInputs.ViewSpacePosition", "FragInputs.positionRWS"),
  ("SurfaceDescriptionInputs.WorldSpaceViewDirection", "FragInputs.positionRWS"),
  ("SurfaceDescriptionInputs.ObjectSpaceViewDirection",
    "SurfaceDescriptionInputs.WorldSpaceViewDirection"),
  ("SurfaceDescriptionInputs.ViewSpaceViewDirection",
    "SurfaceDescriptionInputs.WorldSpaceViewDirection"),
  ("SurfaceDescriptionInputs.TangentSpaceViewDirection",
    "SurfaceDescriptionInputs.WorldSpaceViewDirection"),
  ("SurfaceDescriptionInputs.TangentSpaceViewDirection",
    "SurfaceDescriptionInputs.WorldSpaceTangent"),
  ("SurfaceDescriptionInputs.TangentSpaceViewDirection",
    "SurfaceDescriptionInputs.WorldSpaceBiTangent"),
  ("SurfaceDescriptionInputs.TangentSpaceViewDirection",
    "SurfaceDescriptionInputs.WorldSpaceNormal"),
  ("SurfaceDescriptionInputs.ScreenPosition", "SurfaceDescriptionInputs.WorldSpacePosition"),
  ("SurfaceDescriptionInputs.uv0", "FragInputs.texCoord0"),
  ("SurfaceDescriptionInputs.uv1", "FragInputs.texCoord1"),
  ("SurfaceDescriptionInputs.uv2", "FragInputs.texCoord2"),
  ("SurfaceDescriptionInputs.uv3", "FragInputs.texCoord3"),
  ("SurfaceDescriptionInputs.VertexColor", "FragInputs.color"),
  ("SurfaceDescriptionInputs.FaceSign", "FragInputs.isFrontFace"),
  ("DepthOffset", "FragInputs.positionRWS")]

/-- What the vertex stage of a graph needs. -/
def vertexInputs : DependencyTable := table "VertexDescriptionInputs" [
  ("VertexDescriptionInputs.ObjectSpaceNormal", "AttributesMesh.normalOS"),
  ("VertexDescriptionInputs.WorldSpaceNormal", "AttributesMesh.normalOS"),
  ("VertexDescriptionInputs.ViewSpaceNormal", "VertexDescriptionInputs.WorldSpaceNormal"),
  ("VertexDescriptionInputs.ObjectSpaceTangent", "AttributesMesh.tangentOS"),
  ("VertexDescriptionInputs.WorldSpaceTangent", "AttributesMesh.tangentOS"),
  ("VertexDescriptionInputs.ViewSpaceTangent", "VertexDescriptionInputs.WorldSpaceTangent"),
  ("VertexDescriptionInputs.ObjectSpaceBiTangent", "AttributesMesh.normalOS"),
  ("VertexDescriptionInputs.ObjectSpaceBiTangent", "AttributesMesh.tangentOS"),
  ("VertexDescriptionInputs.WorldSpaceBiTangent", "VertexDescriptionInputs.ObjectSpaceBiTangent"),
  ("VertexDescriptionInputs.ViewSpaceBiTangent", "VertexDescriptionInputs.WorldSpaceBiTangent"),
  ("VertexDescriptionInputs.ObjectSpacePosition", "AttributesMesh.positionOS"),
  ("VertexDescriptionInputs.WorldSpacePosition", "AttributesMesh.positionOS"),
  ("VertexDescriptionInputs.ViewSpacePosition", "VertexDescriptionInputs.WorldSpacePosition"),
  ("VertexDescriptionInputs.WorldSpaceViewDirection",
    "VertexDescriptionInputs.WorldSpacePosition"),
  ("VertexDescriptionInputs.ObjectSpaceViewDirection",
    "VertexDescriptionInputs.WorldSpaceViewDirection"),
  ("VertexDescriptionInputs.ViewSpaceViewDirection",
    "VertexDescriptionInputs.WorldSpaceViewDirection"),
  ("VertexDescriptionInputs.TangentSpaceViewDirection",
    "VertexDescriptionInputs.WorldSpaceViewDirection"),
  ("VertexDescriptionInputs.TangentSpaceViewDirection",
    "VertexDescriptionInputs.WorldSpaceTangent"),
  ("VertexDescriptionInputs.TangentSpaceViewDirection",
    "VertexDescriptionInputs.WorldSpaceBiTangent"),
  ("VertexDescriptionInputs.TangentSpaceViewDirection",
    "VertexDescriptionInputs.WorldSpaceNormal"),
  ("VertexDescriptionInputs.ScreenPosition", "VertexDescriptionInputs.WorldSpacePosition"),
  ("VertexDescriptionInputs.uv0", "AttributesMesh.uv0"),
  ("VertexDescriptionInputs.uv1", "AttributesMesh.uv1"),
  ("VertexDescriptionInputs.uv2", "AttributesMesh.uv2"),
  ("VertexDescriptionInputs.uv3", "AttributesMesh.uv3"),
  ("VertexDescriptionInputs.VertexColor", "AttributesMesh.color")]

/-- The standard registry. -/
def registry : Registry where
  structs := [attributesMesh, varyingsToPixel, varyingsToDomain,
    graphInputs "SurfaceDescriptionInputs" .pixel, graphInputs "VertexDescriptionInputs" .vertex]
  tables := [fragmentInputs, varyings, surfaceInputs, vertexInputs]

end PassForge.Standard
