import GlslCompliance.Json.Document
import GlslCompliance.Unit.Description

/-!
# Descriptions as JSON

The members of every object are written in a fixed order and none is left out, with one exception:
a description without requests has no member for them.
-/

namespace GlslCompliance

open Json (Node)

/-- A profile as JSON: its name. -/
def Profile.toJson (p : Profile) : Node := .string p.name

/-- A stage as JSON: its key. -/
def Stage.toJson (t : Stage) : Node := .string t.key

/-- A behavior as JSON: its key. -/
def Behavior.toJson (b : Behavior) : Node := .string b.key

/-- Targets as JSON. -/
def Targets.toJson (t : Targets) : Node :=
  .record
    [("spv", .nat t.spv.toNat), ("vulkan_glsl", .nat t.vulkanGlsl.toNat),
      ("vulkan", .nat t.vulkan.toNat), ("open_gl", .nat t.openGl.toNat)]

/-- Message options as JSON. -/
def MessageOptions.toJson (m : MessageOptions) : Node :=
  .record
    [("relaxed_errors", .bool m.relaxedErrors), ("suppress_warnings", .bool m.suppressWarnings)]

/-- A request as JSON. -/
def ExtensionRequest.toJson (r : ExtensionRequest) : Node :=
  .record [("name", .string r.name), ("behavior", .string r.keyword)]

/-- The members of a context. -/
def Context.members (c : Context) : List (String × Node) :=
  [("profile", c.profile.toJson), ("version", .nat c.version.toNat), ("stage", c.stage.toJson),
    ("forward_compatible", .bool c.forwardCompatible), ("targets", c.targets.toJson),
    ("messages", c.messages.toJson)]

/-- A description as JSON: the members of its context, then the requests. -/
def UnitDescription.toJson (d : UnitDescription) : Node :=
  .record (d.context.members ++
    if d.requests.isEmpty then []
    else [("extensions", .list (d.requests.map ExtensionRequest.toJson))])

end GlslCompliance
