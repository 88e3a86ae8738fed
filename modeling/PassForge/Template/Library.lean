/-!
# The templates of the library

The text of the pass templates that come with the library, and of the parts they share.
-/

namespace PassForge.Template.Library

/-- A text of whole lines. -/
def ofLines (lines : List String) : String := String.join (lines.map (· ++ "\n"))

/-- The forward pass of lit materials. -/
def forward : String := ofLines [
  "Pass",
  "\x7b",
  "    Name \"\x7b\x7b pass.splice(\"PassName\") \x7d\x7d\"",
  "    Tags \x7b \"LightMode\" = \"\x7b\x7b pass.splice(\"LightMode\") \x7d\x7d\" \x7d",
  "",
  "    // Render modes",
  "\x7b\x7b pass.splice(\"Blending\") \x7d\x7d",
  "\x7b\x7b pass.splice(\"Culling\") \x7d\x7d",
  "\x7b\x7b pass.splice(\"ZTest\") \x7d\x7d",
  "\x7b\x7b pass.splice(\"ZWrite\") \x7d\x7d",
  "\x7b\x7b pass.splice(\"ZClip\") \x7d\x7d",
  "\x7b\x7b pass.splice(\"Stencil\") \x7d\x7d",
  "\x7b\x7b pass.splice(\"ColorMask\") \x7d\x7d",
  "",
  "    HLSLPROGRAM",
  "",
  "    #pragma target 4.5",
  "    #pragma only_renderers d3d11 ps4 xboxone vulkan metal switch",
  "",
  "\x7b\x7b pass.splice(\"InstancingOptions\") \x7d\x7d",
  "\x7b\x7b pass.splice(\"Keywords\") \x7d\x7d",
  "",
  "    // Defines",
  "\x7b\x7b pass.splice(\"Defines\") \x7d\x7d",
  "",
  "    #include \"Packages/com.unity.render-pipelines.core/ShaderLibrary/Common.hlsl\"",
  "    #include \"Packages/com.unity.render-pipelines.high-definition/Runtime/ShaderLibrary/ShaderVariables.hlsl\"",
  "    #include \"Packages/com.unity.render-pipelines.high-definition/Runtime/Material/Material.hlsl\"",
  "",
  "$$ include \"shared/Dependencies.template\"",
  "",
  "$$ include \"shared/Mesh.template\"",
  "",
  "    // Graph",
  "\x7b\x7b pass.splice(\"Graph\") \x7d\x7d",
  "",
  "    // Pass includes",
  "\x7b\x7b pass.splice(\"Includes\") \x7d\x7d",
  "",
  "    #pragma vertex Vert",
  "    #pragma fragment Frag",
  "",
  "    ENDHLSL",
  "\x7d"]

/-- The pass that writes depth alone. -/
def depthOnly : String := ofLines [
  "Pass",
  "\x7b",
  "    Name \"\x7b\x7b pass.splice(\"PassName\") \x7d\x7d\"",
  "    Tags \x7b \"LightMode\" = \"\x7b\x7b pass.splice(\"LightMode\") \x7d\x7d\" \x7d",
  "",
  "    // Render modes",
  "\x7b\x7b pass.splice(\"Culling\") \x7d\x7d",
  "\x7b\x7b pass.splice(\"ZWrite\") \x7d\x7d",
  "\x7b\x7b pass.splice(\"ZClip\") \x7d\x7d",
  "\x7b\x7b pass.splice(\"Stencil\") \x7d\x7d",
  "\x7b\x7b pass.splice(\"ColorMask\") \x7d\x7d",
  "",
  "    HLSLPROGRAM",
  "",
  "    #pragma target 4.5",
  "    #pragma only_renderers d3d11 ps4 xboxone vulkan metal switch",
  "",
  "\x7b\x7b pass.splice(\"InstancingOptions\") \x7d\x7d",
  "\x7b\x7b pass.splice(\"Keywords\") \x7d\x7d",
  "",
  "    // Defines",
  "\x7b\x7b pass.splice(\"Defines\") \x7d\x7d",
  "",
  "    #include \"Packages/com.unity.render-pipelines.core/ShaderLibrary/Common.hlsl\"",
  "    #include \"Packages/com.unity.render-pipelines.high-definition/Runtime/ShaderLibrary/ShaderVariables.hlsl\"",
  "",
  "$$ include \"shared/Dependencies.template\"",
  "",
  "$$ include \"shared/Mesh.template\"",
  "",
  "    // Graph",
  "\x7b\x7b pass.splice(\"Graph\") \x7d\x7d",
  "",
  "    // Pass includes",
  "\x7b\x7b pass.splice(\"Includes\") \x7d\x7d",
  "",
  "    #pragma vertex Vert",
  "    #pragma fragment Frag",
  "",
  "    ENDHLSL",
  "\x7d"]

/-- Defines that tell the pass includes which fields are active. -/
def dependencies : String := ofLines [
  "// Active field translation for the HD pass includes",
  "$$ if pass.active(\"AttributesMesh.normalOS\")",
  "#define ATTRIBUTES_NEED_NORMAL",
  "$$ endif",
  "$$ if pass.active(\"AttributesMesh.tangentOS\")",
  "#define ATTRIBUTES_NEED_TANGENT",
  "$$ endif",
  "$$ for n in range(4)",
  "$$ if pass.active(\"AttributesMesh.uv\" ~ n)",
  "#define ATTRIBUTES_NEED_TEXCOORD\x7b\x7b n \x7d\x7d",
  "$$ endif",
  "$$ endfor",
  "$$ if pass.active(\"AttributesMesh.color\")",
  "#define ATTRIBUTES_NEED_COLOR",
  "$$ endif",
  "$$ if pass.active(\"VaryingsMeshToPS.positionRWS\")",
  "#define VARYINGS_NEED_POSITION_WS",
  "$$ endif",
  "$$ if pass.active(\"VaryingsMeshToPS.normalWS\")",
  "#define VARYINGS_NEED_TANGENT_TO_WORLD",
  "$$ endif",
  "$$ for n in range(4)",
  "$$ if pass.active(\"VaryingsMeshToPS.texCoord\" ~ n)",
  "#define VARYINGS_NEED_TEXCOORD\x7b\x7b n \x7d\x7d",
  "$$ endif",
  "$$ endfor",
  "$$ if pass.active(\"VaryingsMeshToPS.color\")",
  "#define VARYINGS_NEED_COLOR",
  "$$ endif",
  "$$ if pass.active(\"VaryingsMeshToPS.cullFace\")",
  "#define VARYINGS_NEED_CULLFACE",
  "$$ endif",
  "$$ if pass.active(\"features.modifyMesh\")",
  "#define HAVE_MESH_MODIFICATION",
  "$$ endif"]

/-- The mesh structs every pass declares. -/
def mesh : String := ofLines [
  "// Generated mesh structs",
  "\x7b\x7b pass.build_type(\"AttributesMesh\") \x7d\x7d",
  "\x7b\x7b pass.build_type(\"VaryingsMeshToPS\") \x7d\x7d",
  "\x7b\x7b pass.build_type(\"VaryingsMeshToDS\") \x7d\x7d"]

/-- The templates of the library by path. -/
def all : List (String × String) :=
  [("passes/Forward.template", forward),
    ("passes/DepthOnly.template", depthOnly),
    ("passes/shared/Dependencies.template", dependencies),
    ("passes/shared/Mesh.template", mesh)]

end PassForge.Template.Library
