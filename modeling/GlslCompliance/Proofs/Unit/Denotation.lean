import GlslCompliance.Proofs.Json.Records
import GlslCompliance.Unit.Loading

/-!
# What a description says

Which document denotes which description, told from the document as a whole. Each record comes with
a structure `Denotes` that has one line for every field: how it is written, and what it is where it
is absent. The reader of the record accepts exactly this.

* `Profile.Denotes`, `Stage.Denotes`: names;
* `Targets.Denotes`, `MessageOptions.Denotes`, `ExtensionRequest.Denotes`: the records inside;
* `UnitDescription.Denotes`: a whole description. `UnitDescription.ofText_iff_denotes` says which
  texts hold one, and that every other text is rejected.
-/

namespace GlslCompliance

open Json (Accepts Defaulted Field Node Record Required)

/-! ### Names -/

/-- A document denotes a profile by its name. -/
def Profile.Denotes (v : Node) (p : Profile) : Prop := v.Names p.name

/-- A document denotes a stage by its key. -/
def Stage.Denotes (v : Node) (t : Stage) : Prop := v.Names t.key

theorem Profile.accepts_fromJson : Accepts Profile.fromJson Profile.Denotes :=
  Json.accepts_decodeVariant_map
    (fun p q h => Option.some.inj (ofName?_name p ▸ ofName?_name q ▸ congrArg ofName? h))
    (fun p => by cases p <;> decide)

theorem Stage.accepts_fromJson : Accepts Stage.fromJson Stage.Denotes :=
  Json.accepts_decodeVariant_map (fun t u h => by cases t <;> cases u <;> first | rfl | nomatch h)
    (fun t => by cases t <;> decide)

/-! ### Targets -/

namespace Targets

/-- The fields of targets, in their order. -/
def fieldNames : List String := ["spv", "vulkan_glsl", "vulkan", "open_gl"]

/-- A document denotes targets. What is absent is not targeted. -/
structure Denotes (v : Node) (t : Targets) : Prop where
  isRecord : v.IsRecord fieldNames
  spv : Defaulted Node.IsUInt32 0 (v.values fieldNames "spv") t.spv
  vulkanGlsl : Defaulted Node.IsUInt32 0 (v.values fieldNames "vulkan_glsl") t.vulkanGlsl
  vulkan : Defaulted Node.IsUInt32 0 (v.values fieldNames "vulkan") t.vulkan
  openGl : Defaulted Node.IsUInt32 0 (v.values fieldNames "open_gl") t.openGl

/-- Each target has its own part of a draft. -/
theorem keeps_record :
    record.Keeps record.fields[0] Draft.spv Node.IsUInt32 ∧
      record.Keeps record.fields[1] Draft.vulkanGlsl Node.IsUInt32 ∧
      record.Keeps record.fields[2] Draft.vulkan Node.IsUInt32 ∧
      record.Keeps record.fields[3] Draft.openGl Node.IsUInt32 := by
  refine ⟨.of Json.accepts_decodeUInt32 ?_ rfl (fun _ _ => rfl) ?_,
    .of Json.accepts_decodeUInt32 ?_ rfl (fun _ _ => rfl) ?_,
    .of Json.accepts_decodeUInt32 ?_ rfl (fun _ _ => rfl) ?_,
    .of Json.accepts_decodeUInt32 ?_ rfl (fun _ _ => rfl) ?_⟩ <;>
    simp [record, Field.leaves_of]

/-- The fields of targets have names of their own and do not interfere. -/
theorem isLawful_record : record.IsLawful := by
  obtain ⟨hspv, hvulkanGlsl, hvulkan, hopenGl⟩ := keeps_record
  refine ⟨by decide, ?_⟩
  simp only [record, List.forall_mem_cons]
  exact ⟨⟨_, _, _, hspv⟩, ⟨_, _, _, hvulkanGlsl⟩, ⟨_, _, _, hvulkan⟩, ⟨_, _, _, hopenGl⟩, nofun⟩

/-- The reader of targets accepts what denotes them. -/
theorem accepts_fromJson : Accepts fromJson Denotes := by
  obtain ⟨hspv, hvulkanGlsl, hvulkan, hopenGl⟩ := keeps_record
  refine isLawful_record.accepts (fun v d t hv hd => ?_) (fun _ _ h => h.isRecord)
    fun v t hv h => ?_
  · have hspv := hspv.defaulted_iff isLawful_record hd 0 t.spv
    have hvulkanGlsl := hvulkanGlsl.defaulted_iff isLawful_record hd 0 t.vulkanGlsl
    have hvulkan := hvulkan.defaulted_iff isLawful_record hd 0 t.vulkan
    have hopenGl := hopenGl.defaulted_iff isLawful_record hd 0 t.openGl
    constructor
    · intro h
      obtain rfl := Except.ok.inj h
      exact ⟨hv, hspv.mpr rfl, hvulkanGlsl.mpr rfl, hvulkan.mpr rfl, hopenGl.mpr rfl⟩
    · intro h
      have heq : d.finish = t := by
        rw [Draft.finish, hspv.mp h.spv, hvulkanGlsl.mp h.vulkanGlsl, hvulkan.mp h.vulkan,
          hopenGl.mp h.openGl]
      exact congrArg Except.ok heq
  · simp only [record, List.forall_mem_cons]
    exact ⟨hspv.takes_of_defaulted hv h.spv, hvulkanGlsl.takes_of_defaulted hv h.vulkanGlsl,
      hvulkan.takes_of_defaulted hv h.vulkan, hopenGl.takes_of_defaulted hv h.openGl, nofun⟩

end Targets

/-! ### Message options -/

namespace MessageOptions

/-- The fields of message options, in their order. -/
def fieldNames : List String := ["relaxed_errors", "suppress_warnings"]

/-- A document denotes message options. What is absent is off. -/
structure Denotes (v : Node) (m : MessageOptions) : Prop where
  isRecord : v.IsRecord fieldNames
  relaxedErrors : Defaulted Node.IsBool false (v.values fieldNames "relaxed_errors") m.relaxedErrors
  suppressWarnings :
    Defaulted Node.IsBool false (v.values fieldNames "suppress_warnings") m.suppressWarnings

/-- Each option has its own part of a draft. -/
theorem keeps_record :
    record.Keeps record.fields[0] Draft.relaxedErrors Node.IsBool ∧
      record.Keeps record.fields[1] Draft.suppressWarnings Node.IsBool := by
  refine ⟨.of Json.accepts_decodeBool ?_ rfl (fun _ _ => rfl) ?_,
    .of Json.accepts_decodeBool ?_ rfl (fun _ _ => rfl) ?_⟩ <;>
    simp [record, Field.leaves_of]

theorem isLawful_record : record.IsLawful := by
  obtain ⟨hrelaxed, hsuppress⟩ := keeps_record
  refine ⟨by decide, ?_⟩
  simp only [record, List.forall_mem_cons]
  exact ⟨⟨_, _, _, hrelaxed⟩, ⟨_, _, _, hsuppress⟩, nofun⟩

/-- The reader of message options accepts what denotes them. -/
theorem accepts_fromJson : Accepts fromJson Denotes := by
  obtain ⟨hrelaxed, hsuppress⟩ := keeps_record
  refine isLawful_record.accepts (fun v d m hv hd => ?_) (fun _ _ h => h.isRecord)
    fun v m hv h => ?_
  · have hrelaxed := hrelaxed.defaulted_iff isLawful_record hd false m.relaxedErrors
    have hsuppress := hsuppress.defaulted_iff isLawful_record hd false m.suppressWarnings
    constructor
    · intro h
      obtain rfl := Except.ok.inj h
      exact ⟨hv, hrelaxed.mpr rfl, hsuppress.mpr rfl⟩
    · intro h
      have heq : d.finish = m := by
        rw [Draft.finish, hrelaxed.mp h.relaxedErrors, hsuppress.mp h.suppressWarnings]
      exact congrArg Except.ok heq
  · simp only [record, List.forall_mem_cons]
    exact ⟨hrelaxed.takes_of_defaulted hv h.relaxedErrors,
      hsuppress.takes_of_defaulted hv h.suppressWarnings, nofun⟩

end MessageOptions

/-! ### Requests -/

namespace ExtensionRequest

/-- The fields of a request, in their order. -/
def fieldNames : List String := ["name", "behavior"]

/-- A document denotes a request. Both fields have to be there. -/
structure Denotes (v : Node) (q : ExtensionRequest) : Prop where
  isRecord : v.IsRecord fieldNames
  name : Required Node.IsText (v.values fieldNames "name") q.name
  keyword : Required Node.IsText (v.values fieldNames "behavior") q.keyword

/-- Each field of a request has its own part of a draft. -/
theorem keeps_record :
    record.Keeps record.fields[0] Draft.name Node.IsText ∧
      record.Keeps record.fields[1] Draft.keyword Node.IsText := by
  refine ⟨.of Json.accepts_decodeString ?_ rfl (fun _ _ => rfl) ?_,
    .of Json.accepts_decodeString ?_ rfl (fun _ _ => rfl) ?_⟩ <;>
    simp [record, Field.leaves_of]

theorem isLawful_record : record.IsLawful := by
  obtain ⟨hname, hkeyword⟩ := keeps_record
  refine ⟨by decide, ?_⟩
  simp only [record, List.forall_mem_cons]
  exact ⟨⟨_, _, _, hname⟩, ⟨_, _, _, hkeyword⟩, nofun⟩

/-- A request is complete if it has a name and a keyword. -/
theorem Draft.finish_eq_ok_iff {d : Draft} {q : ExtensionRequest} :
    d.finish = .ok q ↔ d.name = some q.name ∧ d.keyword = some q.keyword := by
  obtain ⟨name, keyword⟩ := d
  obtain ⟨qname, qkeyword⟩ := q
  cases name <;> cases keyword <;> simp [Draft.finish]

/-- The reader of requests accepts what denotes them. -/
theorem accepts_fromJson : Accepts fromJson Denotes := by
  obtain ⟨hname, hkeyword⟩ := keeps_record
  refine isLawful_record.accepts (fun v d q hv hd => ?_) (fun _ _ h => h.isRecord)
    fun v q hv h => ?_
  · have hname := hname.required_iff isLawful_record hd q.name
    have hkeyword := hkeyword.required_iff isLawful_record hd q.keyword
    refine Draft.finish_eq_ok_iff.trans ⟨fun h => ?_, fun h => ?_⟩
    · exact ⟨hv, hname.mpr h.1, hkeyword.mpr h.2⟩
    · exact ⟨hname.mp h.name, hkeyword.mp h.keyword⟩
  · simp only [record, List.forall_mem_cons]
    exact ⟨hname.takes_of_required hv h.name, hkeyword.takes_of_required hv h.keyword, nofun⟩

end ExtensionRequest

/-! ### Descriptions -/

namespace UnitDescription

/-- The fields of a description, in their order. -/
def fieldNames : List String :=
  ["profile", "version", "stage", "forward_compatible", "targets", "messages", "extensions"]

/-- A document denotes a description. Only the version has to be there. -/
structure Denotes (v : Node) (c : UnitDescription) : Prop where
  isRecord : v.IsRecord fieldNames
  profile : Defaulted Profile.Denotes .core (v.values fieldNames "profile") c.context.profile
  version : Required Node.IsUInt32 (v.values fieldNames "version") c.context.version
  stage : Defaulted Stage.Denotes .vertex (v.values fieldNames "stage") c.context.stage
  forwardCompatible :
    Defaulted Node.IsBool false (v.values fieldNames "forward_compatible")
      c.context.forwardCompatible
  targets :
    Defaulted Targets.Denotes ⟨0, 0, 0, 0⟩ (v.values fieldNames "targets") c.context.targets
  messages :
    Defaulted MessageOptions.Denotes ⟨false, false⟩ (v.values fieldNames "messages")
      c.context.messages
  requests :
    Defaulted (Node.IsList ExtensionRequest.Denotes) [] (v.values fieldNames "extensions")
      c.requests

/-- Each field of a description has its own part of a draft. -/
theorem keeps_record :
    record.Keeps record.fields[0] Draft.profile Profile.Denotes ∧
      record.Keeps record.fields[1] Draft.version Node.IsUInt32 ∧
      record.Keeps record.fields[2] Draft.stage Stage.Denotes ∧
      record.Keeps record.fields[3] Draft.forwardCompatible Node.IsBool ∧
      record.Keeps record.fields[4] Draft.targets Targets.Denotes ∧
      record.Keeps record.fields[5] Draft.messages MessageOptions.Denotes ∧
      record.Keeps record.fields[6] Draft.requests (Node.IsList ExtensionRequest.Denotes) := by
  have hrequests := Json.accepts_decodeList ExtensionRequest.accepts_fromJson
  refine ⟨.of Profile.accepts_fromJson ?_ rfl (fun _ _ => rfl) ?_,
    .of Json.accepts_decodeUInt32 ?_ rfl (fun _ _ => rfl) ?_,
    .of Stage.accepts_fromJson ?_ rfl (fun _ _ => rfl) ?_,
    .of Json.accepts_decodeBool ?_ rfl (fun _ _ => rfl) ?_,
    .of Targets.accepts_fromJson ?_ rfl (fun _ _ => rfl) ?_,
    .of MessageOptions.accepts_fromJson ?_ rfl (fun _ _ => rfl) ?_,
    .of hrequests ?_ rfl (fun _ _ => rfl) ?_⟩ <;>
    simp [record, Field.leaves_of]

theorem isLawful_record : record.IsLawful := by
  obtain ⟨hprofile, hversion, hstage, hforward, htargets, hmessages, hrequests⟩ := keeps_record
  refine ⟨by decide, ?_⟩
  simp only [record, List.forall_mem_cons]
  exact ⟨⟨_, _, _, hprofile⟩, ⟨_, _, _, hversion⟩, ⟨_, _, _, hstage⟩, ⟨_, _, _, hforward⟩,
    ⟨_, _, _, htargets⟩, ⟨_, _, _, hmessages⟩, ⟨_, _, _, hrequests⟩, nofun⟩

/-- A description is complete if it has a version; the rest has defaults. -/
theorem Draft.finish_eq_ok_iff {d : Draft} {c : UnitDescription} :
    d.finish = .ok c ↔
      d.profile.getD .core = c.context.profile ∧ d.version = some c.context.version ∧
        d.stage.getD .vertex = c.context.stage ∧
        d.forwardCompatible.getD false = c.context.forwardCompatible ∧
        d.targets.getD ⟨0, 0, 0, 0⟩ = c.context.targets ∧
        d.messages.getD ⟨false, false⟩ = c.context.messages ∧ d.requests.getD [] = c.requests := by
  obtain ⟨profile, version, stage, forward, targets, messages, requests⟩ := d
  obtain ⟨⟨profile', version', stage', forward', targets', messages'⟩, requests'⟩ := c
  cases version with
  | none => simp [Draft.finish]
  | some version =>
    simp only [Draft.finish, Except.ok.injEq, UnitDescription.mk.injEq, Context.mk.injEq,
      Option.some.injEq]
    constructor
    · rintro ⟨⟨hprofile, hversion, hstage, hforward, htargets, hmessages⟩, hrequests⟩
      exact ⟨hprofile, hversion, hstage, hforward, htargets, hmessages, hrequests⟩
    · rintro ⟨hprofile, hversion, hstage, hforward, htargets, hmessages, hrequests⟩
      exact ⟨⟨hprofile, hversion, hstage, hforward, htargets, hmessages⟩, hrequests⟩

/-- The reader of descriptions accepts what denotes them. -/
theorem accepts_fromJson : Accepts fromJson Denotes := by
  obtain ⟨hprofile, hversion, hstage, hforward, htargets, hmessages, hrequests⟩ := keeps_record
  refine isLawful_record.accepts (fun v d c hv hd => ?_) (fun _ _ h => h.isRecord)
    fun v c hv h => ?_
  · have hprofile := hprofile.defaulted_iff isLawful_record hd .core c.context.profile
    have hversion := hversion.required_iff isLawful_record hd c.context.version
    have hstage := hstage.defaulted_iff isLawful_record hd .vertex c.context.stage
    have hforward := hforward.defaulted_iff isLawful_record hd false c.context.forwardCompatible
    have htargets := htargets.defaulted_iff isLawful_record hd ⟨0, 0, 0, 0⟩ c.context.targets
    have hmessages := hmessages.defaulted_iff isLawful_record hd ⟨false, false⟩ c.context.messages
    have hrequests := hrequests.defaulted_iff isLawful_record hd [] c.requests
    refine Draft.finish_eq_ok_iff.trans ⟨?_, fun h => ?_⟩
    · rintro ⟨hp, hn, ht, hf, hts, hm, hr⟩
      exact ⟨hv, hprofile.mpr hp, hversion.mpr hn, hstage.mpr ht, hforward.mpr hf,
        htargets.mpr hts, hmessages.mpr hm, hrequests.mpr hr⟩
    · exact ⟨hprofile.mp h.profile, hversion.mp h.version, hstage.mp h.stage,
        hforward.mp h.forwardCompatible, htargets.mp h.targets, hmessages.mp h.messages,
        hrequests.mp h.requests⟩
  · simp only [record, List.forall_mem_cons]
    exact ⟨hprofile.takes_of_defaulted hv h.profile, hversion.takes_of_required hv h.version,
      hstage.takes_of_defaulted hv h.stage, hforward.takes_of_defaulted hv h.forwardCompatible,
      htargets.takes_of_defaulted hv h.targets, hmessages.takes_of_defaulted hv h.messages,
      hrequests.takes_of_defaulted hv h.requests, nofun⟩

/-- A text is read as a description if it is that of a document which denotes it. -/
theorem ofText_eq_ok_iff {text : String} {c : UnitDescription} :
    ofText text = .ok c ↔ ∃ v : Node, v.IsWritten text.toList ∧ Denotes v c := by
  rw [ofText, Record.mapError_eq_ok_iff, parse, Json.decode_eq_ok_iff accepts_fromJson]

/-- **Texts of descriptions.** A text holds a description exactly if it is that of a document which
denotes it. Every other text is rejected. -/
theorem ofText_iff_denotes (text : String) :
    (∀ c, ofText text = .ok c ↔ ∃ v : Node, v.IsWritten text.toList ∧ Denotes v c) ∧
      ((∃ reason, ofText text = .error (.rejected reason)) ↔
        ¬∃ (v : Node) (c : UnitDescription), v.IsWritten text.toList ∧ Denotes v c) := by
  refine ⟨fun c => ofText_eq_ok_iff, ?_, ?_⟩
  · rintro ⟨reason, herror⟩ ⟨v, c, h⟩
    have hok : ofText text = .ok c := ofText_eq_ok_iff.mpr ⟨v, h⟩
    exact nomatch herror.symm.trans hok
  · intro hnone
    cases hparse : parse text with
    | error reason => exact ⟨reason, by rw [ofText, hparse]; rfl⟩
    | ok c =>
      have hok : ofText text = .ok c := by rw [ofText, hparse]; rfl
      obtain ⟨v, h⟩ := ofText_eq_ok_iff.mp hok
      exact absurd ⟨v, c, h⟩ hnone

end UnitDescription

end GlslCompliance
