import GlslCompliance.Json.Decoding
import GlslCompliance.Unit.Description

/-!
# Descriptions from JSON

The records of a description and how each is finished once its text has been read: a field that is
absent takes its default, except the version of a unit and both fields of a request, which have
none. A draft is a record of which some fields are still unknown.
-/

namespace GlslCompliance

open Json (DecodeError Decoder Field Record)

/-- Reads a profile. -/
def Profile.fromJson : Decoder Profile := Json.decodeVariant (all.map fun p => (p.name, p))

/-- Reads a stage. -/
def Stage.fromJson : Decoder Stage := Json.decodeVariant (all.map fun t => (t.key, t))

/-- Reads a behavior. -/
def Behavior.fromJson : Decoder Behavior := Json.decodeVariant (all.map fun b => (b.key, b))

namespace Targets

/-- Targets of which some may be unknown. -/
structure Draft where
  spv : Option UInt32 := none
  vulkanGlsl : Option UInt32 := none
  vulkan : Option UInt32 := none
  openGl : Option UInt32 := none

/-- The targets of a draft: what is unknown is not targeted. -/
def Draft.finish (d : Draft) : Targets where
  spv := d.spv.getD 0
  vulkanGlsl := d.vulkanGlsl.getD 0
  vulkan := d.vulkan.getD 0
  openGl := d.openGl.getD 0

/-- The record of targets. -/
def record : Record Targets Draft where
  name := "SpvVersion"
  fields :=
    [.of "spv" Draft.spv (fun n d => { d with spv := some n }) Json.decodeUInt32,
      .of "vulkan_glsl" Draft.vulkanGlsl (fun n d => { d with vulkanGlsl := some n })
        Json.decodeUInt32,
      .of "vulkan" Draft.vulkan (fun n d => { d with vulkan := some n }) Json.decodeUInt32,
      .of "open_gl" Draft.openGl (fun n d => { d with openGl := some n }) Json.decodeUInt32]
  blank := {}
  finish d := .ok d.finish

/-- Reads targets. -/
def fromJson : Decoder Targets := record.decoder

end Targets

namespace MessageOptions

/-- Message options of which some may be unknown. -/
structure Draft where
  relaxedErrors : Option Bool := none
  suppressWarnings : Option Bool := none

/-- The message options of a draft: what is unknown is off. -/
def Draft.finish (d : Draft) : MessageOptions where
  relaxedErrors := d.relaxedErrors.getD false
  suppressWarnings := d.suppressWarnings.getD false

/-- The record of message options. -/
def record : Record MessageOptions Draft where
  name := "MessageOptions"
  fields :=
    [.of "relaxed_errors" Draft.relaxedErrors (fun b d => { d with relaxedErrors := some b })
        Json.decodeBool,
      .of "suppress_warnings" Draft.suppressWarnings
        (fun b d => { d with suppressWarnings := some b }) Json.decodeBool]
  blank := {}
  finish d := .ok d.finish

/-- Reads message options. -/
def fromJson : Decoder MessageOptions := record.decoder

end MessageOptions

namespace ExtensionRequest

/-- A request of which a part may be unknown. -/
structure Draft where
  name : Option String := none
  keyword : Option String := none

/-- The request of a draft, or the position of the field that is absent. -/
def Draft.finish (d : Draft) : Except Nat ExtensionRequest :=
  match d.name, d.keyword with
  | some name, some keyword => .ok { name, keyword }
  | none, _ => .error 0
  | some _, none => .error 1

/-- The record of a request. -/
def record : Record ExtensionRequest Draft where
  name := "ExtensionRequest"
  fields :=
    [.of "name" Draft.name (fun s d => { d with name := some s }) Json.decodeString,
      .of "behavior" Draft.keyword (fun s d => { d with keyword := some s }) Json.decodeString]
  blank := {}
  finish := Draft.finish

/-- Reads a request. -/
def fromJson : Decoder ExtensionRequest := record.decoder

end ExtensionRequest

namespace UnitDescription

/-- A description of which some fields may be unknown. -/
structure Draft where
  profile : Option Profile := none
  version : Option UInt32 := none
  stage : Option Stage := none
  forwardCompatible : Option Bool := none
  targets : Option Targets := none
  messages : Option MessageOptions := none
  requests : Option (List ExtensionRequest) := none

/-- The description of a draft, or the position of the version where that is absent. -/
def Draft.finish (d : Draft) : Except Nat UnitDescription :=
  match d.version with
  | none => .error 1
  | some version =>
    .ok
      { context :=
          { profile := d.profile.getD default, version, stage := d.stage.getD default,
            forwardCompatible := d.forwardCompatible.getD false, targets := d.targets.getD {},
            messages := d.messages.getD {} },
        requests := d.requests.getD [] }

/-- The record of a description. -/
def record : Record UnitDescription Draft where
  name := "UnitConfig"
  fields :=
    [.of "profile" Draft.profile (fun p d => { d with profile := some p }) Profile.fromJson,
      .of "version" Draft.version (fun n d => { d with version := some n }) Json.decodeUInt32,
      .of "stage" Draft.stage (fun t d => { d with stage := some t }) Stage.fromJson,
      .of "forward_compatible" Draft.forwardCompatible
        (fun b d => { d with forwardCompatible := some b }) Json.decodeBool,
      .of "targets" Draft.targets (fun t d => { d with targets := some t }) Targets.fromJson,
      .of "messages" Draft.messages (fun m d => { d with messages := some m })
        MessageOptions.fromJson,
      .of "extensions" Draft.requests (fun rs d => { d with requests := some rs })
        (Json.decodeList ExtensionRequest.fromJson)]
  blank := {}
  finish := Draft.finish

/-- Reads a description. -/
def fromJson : Decoder UnitDescription := record.decoder

/-- Reads the text of a description. -/
def parse (text : String) : Except DecodeError UnitDescription := Json.decode fromJson text

end UnitDescription

end GlslCompliance
