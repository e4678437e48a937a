import GlslCompliance.Proofs.Json.Writing
import GlslCompliance.Proofs.Unit.Denotation
import GlslCompliance.Unit.Encoding

/-!
# Descriptions are read back from their texts

A description that is written as JSON denotes itself, field by field, and the same holds of the
records inside. What is written is therefore read back, for any description at all:

* `Targets.denotes_toJson`, `MessageOptions.denotes_toJson`, `ExtensionRequest.denotes_toJson`,
  `UnitDescription.denotes_toJson`: the written document against the reader's side of the format.
  A description without requests has no member for them, and an absent member means no requests;
* `Json.decode_render`: what a document denotes is read from its text;
* `UnitDescription.ofText_toJson_render`: the round trip, and what follows from it.
-/

namespace GlslCompliance

open Json (Accepts DecodeError Decoder Node)

/-! ### What is written denotes itself -/

theorem Targets.denotes_toJson (t : Targets) : Denotes t.toJson t where
  isRecord := Node.isRecord_record _ _
  spv := Node.isUInt32_nat t.spv
  vulkanGlsl := Node.isUInt32_nat t.vulkanGlsl
  vulkan := Node.isUInt32_nat t.vulkan
  openGl := Node.isUInt32_nat t.openGl

theorem MessageOptions.denotes_toJson (m : MessageOptions) : Denotes m.toJson m where
  isRecord := Node.isRecord_record _ _
  relaxedErrors := rfl
  suppressWarnings := rfl

theorem ExtensionRequest.denotes_toJson (q : ExtensionRequest) : Denotes q.toJson q where
  isRecord := Node.isRecord_record _ _
  name := rfl
  keyword := rfl

namespace UnitDescription

/-- The member for the requests is there exactly if there are any. -/
theorem values_toJson_extensions (c : UnitDescription) :
    c.toJson.values fieldNames "extensions" =
      if c.requests = [] then [] else [.list (c.requests.map ExtensionRequest.toJson)] := by
  obtain ⟨context, requests⟩ := c
  cases requests <;> rfl

/-- The other members do not depend on the requests. -/
theorem values_toJson_of_ne (c : UnitDescription) {name : String} (h : "extensions" ≠ name) :
    c.toJson.values fieldNames name = (Node.record c.context.members).values fieldNames name := by
  have hbehind : (Node.record (if c.requests.isEmpty then []
      else [("extensions", .list (c.requests.map ExtensionRequest.toJson))])).values
        fieldNames name = [] := by
    split
    · rfl
    · rw [Node.values_record_cons, if_neg h]
      rfl
  rw [toJson, Node.values_record_append, hbehind, List.append_nil]

/-- A description is written as a document that denotes it. -/
theorem denotes_toJson (c : UnitDescription) : Denotes c.toJson c where
  isRecord := Node.isRecord_record _ _
  profile := by
    rw [values_toJson_of_ne c (by decide)]
    exact Node.names_string c.context.profile.name
  version := by
    rw [values_toJson_of_ne c (by decide)]
    exact Node.isUInt32_nat c.context.version
  stage := by
    rw [values_toJson_of_ne c (by decide)]
    exact Node.names_string c.context.stage.key
  forwardCompatible := by
    rw [values_toJson_of_ne c (by decide)]
    rfl
  targets := by
    rw [values_toJson_of_ne c (by decide)]
    exact c.context.targets.denotes_toJson
  messages := by
    rw [values_toJson_of_ne c (by decide)]
    exact c.context.messages.denotes_toJson
  requests := by
    rw [values_toJson_extensions]
    split
    · next h => exact h
    · refine Node.isList_list (List.forall₂_map_left_iff.mpr (List.forall₂_same.mpr ?_))
      exact fun q _ => q.denotes_toJson

end UnitDescription

/-! ### What is written can be read -/

theorem Targets.isProper_toJson (t : Targets) : t.toJson.IsProper := by
  refine Node.isProper_record ?_
  simp only [List.forall_mem_cons]
  exact ⟨Node.isProper_nat _, Node.isProper_nat _, Node.isProper_nat _, Node.isProper_nat _, nofun⟩

theorem MessageOptions.isProper_toJson (m : MessageOptions) : m.toJson.IsProper := by
  refine Node.isProper_record ?_
  simp only [List.forall_mem_cons]
  exact ⟨Node.isProper_bool _, Node.isProper_bool _, nofun⟩

theorem ExtensionRequest.isProper_toJson (q : ExtensionRequest) : q.toJson.IsProper := by
  refine Node.isProper_record ?_
  simp only [List.forall_mem_cons]
  exact ⟨Node.isProper_string _, Node.isProper_string _, nofun⟩

theorem Context.isProper_members (c : Context) : ∀ m ∈ c.members, m.2.IsProper := by
  simp only [members, List.forall_mem_cons]
  exact ⟨Node.isProper_string _, Node.isProper_nat _, Node.isProper_string _,
    Node.isProper_bool _, c.targets.isProper_toJson, c.messages.isProper_toJson, nofun⟩

/-- A description is written as a proper document. -/
theorem UnitDescription.isProper_toJson (c : UnitDescription) : c.toJson.IsProper := by
  refine Node.isProper_record (List.forall_mem_append.mpr ⟨c.context.isProper_members, ?_⟩)
  split
  · exact nofun
  · refine List.forall_mem_singleton.mpr (Node.isProper_list fun v hv => ?_)
    obtain ⟨q, -, rfl⟩ := List.mem_map.mp hv
    exact q.isProper_toJson

/-! ### The round trip -/

/-- What a proper document denotes is read from its text. -/
theorem Json.decode_render {α : Type} {d : Decoder α} {P : Node → α → Prop} (h : Accepts d P)
    {v : Node} {a : α} (hv : v.IsProper) (hp : P v a) : Json.decode d v.render = .ok a :=
  (Json.decode_eq_ok_iff h).mpr ⟨v, Node.isWritten_render hv, hp⟩

namespace UnitDescription

/-- A text of a description, written anew. -/
def rewritten (text : String) : Except LoadError String :=
  (ofText text).map fun c => c.toJson.render

/-- A description that is written out is read back. -/
theorem ofText_render (c : UnitDescription) : ofText c.toJson.render = .ok c :=
  ofText_eq_ok_iff.mpr ⟨c.toJson, Node.isWritten_render c.isProper_toJson, c.denotes_toJson⟩

/-- Different descriptions are written differently. -/
theorem injective_render : Function.Injective fun c : UnitDescription => c.toJson.render := by
  have hread : ofText ∘ (fun c : UnitDescription => c.toJson.render) = Except.ok :=
    funext ofText_render
  have hok : Function.Injective (Except.ok : UnitDescription → Except LoadError UnitDescription) :=
    fun _ _ => Except.ok.inj
  exact (hread ▸ hok).of_comp

/-- **The round trip.** Every description is read back from the text that it is written as, and so
is every record inside it; whatever characters its strings have. Therefore no two descriptions are
written as the same text, although the member for the requests is left out where there are none;
and a text that has been written anew once stays as it is. -/
theorem ofText_toJson_render :
    (∀ c : UnitDescription, ofText c.toJson.render = .ok c) ∧
    (∀ q : ExtensionRequest, Json.decode ExtensionRequest.fromJson q.toJson.render = .ok q) ∧
    (∀ t : Targets, Json.decode Targets.fromJson t.toJson.render = .ok t) ∧
    (∀ m : MessageOptions, Json.decode MessageOptions.fromJson m.toJson.render = .ok m) ∧
    Function.Injective (fun c : UnitDescription => c.toJson.render) ∧
    (∀ c : UnitDescription, c.toJson.values fieldNames "extensions" = [] ↔ c.requests = []) ∧
    ∀ text text', rewritten text = .ok text' → rewritten text' = .ok text' := by
  refine ⟨ofText_render, fun q => ?_, fun t => ?_, fun m => ?_, injective_render, fun c => ?_,
    fun text text' h => ?_⟩
  · exact Json.decode_render ExtensionRequest.accepts_fromJson q.isProper_toJson q.denotes_toJson
  · exact Json.decode_render Targets.accepts_fromJson t.isProper_toJson t.denotes_toJson
  · exact Json.decode_render MessageOptions.accepts_fromJson m.isProper_toJson m.denotes_toJson
  · rw [values_toJson_extensions]
    split <;> simp_all
  · rw [rewritten] at h
    cases hc : ofText text with
    | error e =>
      rw [hc] at h
      exact nomatch h
    | ok c =>
      rw [hc] at h
      rw [← Except.ok.inj h, rewritten, ofText_render]
      rfl

example : (ExtensionRequest.mk "a\"b\\c" "\t\u0001é").toJson.render =
    "\x7b\"name\":\"a\\\"b\\\\c\",\"behavior\":\"\\t\\u0001é\"\x7d" := by decide

end UnitDescription

end GlslCompliance
