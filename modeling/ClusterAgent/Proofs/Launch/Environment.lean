import ClusterAgent.Proofs.Launch.Mounts
import ClusterAgent.Proofs.Storage.Record

/-! What a container is told in its environment: the variables of its specification, where its
tokens are, and all of its resources, which can be read back. -/
namespace ClusterAgent

open Schema

namespace LaunchParameters

variable {spec : LaunchSpec} {params : LaunchParameters} {tokenFile : LocalPath}
  {command : List String} {resources : List Resource}

/-! ### The list of resources -/

theorem readable_resources (resources : List Resource) (depth : Nat) :
    (Json.arr (resources.map toJson)).Readable true (depth + 2) :=
  List.forall_mem_map.mpr fun r _ => r.readable_toJson depth

theorem merged_resources (resources : List Resource) :
    (Json.arr (resources.map toJson)).merged = .arr (resources.map toJson) := by
  rw [Json.merged, Json.mergedItems_eq_map, List.map_map]
  exact congrArg Json.arr (List.map_congr_left fun r _ => r.merged_toJson)

theorem refused?_resources (h : ∀ r ∈ resources, r.isWritable) (limit : Nat) :
    Json.refused? (.lenient limit) (.arr (resources.map toJson)) = none := by
  rw [Json.refused?, Json.refusedItem?_eq_none, List.forall_mem_map]
  intro r hr
  rw [Resource.refused?_toJson_eq_none, Json.lenient_admits, Json.lenient_admits]
  exact Bool.and_eq_true_iff.mp (h r hr)

/-- The text that lists resources is read as the list of their documents. -/
theorem readLenient_resourcesText {text : String} (h : resourcesText resources = .ok text)
    (depth : Nat) :
    Json.readLenient (depth + 2) (Utf8.encode text) = .ok (.arr (resources.map toJson)) := by
  obtain ⟨hwritable, rfl⟩ := resourcesText_eq_ok.mp h
  rw [Json.readLenient_printAscii (readable_resources resources depth),
    refused?_resources hwritable, merged_resources]
  rfl

theorem checkList_resources (kind : FaultKind) (resources : List Resource) :
    checkList kind Resource.check (.ofJson (.arr (resources.map toJson))) = .ok resources := by
  rw [checkList_eq_ok]
  refine ⟨_, rfl, ?_⟩
  rw [Datum.ofItems_eq_map, List.map_map, List.forall₂_map_left_iff, List.forall₂_same]
  intro r _
  rw [Function.comp_apply, r.ofJson_toJson]
  exact r.check_toDatum

/-! ### The environment -/

theorem get?_environmentOf (spec : LaunchSpec) (text name : String) :
    (environmentOf spec text).get? name =
      if resourcesVariable = name then some text
      else if tokenFileVariable = name then some tokenFilePath else spec.environment.get? name := by
  unfold environmentOf
  rw [Table.get?_insert, Table.get?_insert]
  simp only [beq_iff_eq]

theorem entry?_environment (params : LaunchParameters) :
    Datum.entry? params.fields "environment" = some (strings params.environment) := by
  have hothers : ∀ name, name ≠ "environment" →
      WideText.ofString name ≠ WideText.ofString "environment" := fun _ hne heq =>
    hne (WideText.ofString_injective heq)
  have hrest : Datum.entry? params.fields.tail "environment" = none := by
    rw [Datum.entry?_eq_none]
    unfold fields
    rw [List.cons_append, List.tail_cons, List.forall_mem_append]
    simp only [List.forall_mem_cons, List.not_mem_nil, false_imp_iff, implies_true, and_true]
    refine ⟨⟨hothers "volumes" (by decide), hothers "working_dir" (by decide),
      hothers "mem_limit" (by decide)⟩, ?_⟩
    split
    · exact nofun
    · exact List.forall_mem_singleton.mpr (hothers "command" (by decide))
  have hfields : params.fields =
      (("environment" : WideText), strings params.environment) :: params.fields.tail := rfl
  rw [hfields, Datum.entry?_cons, hrest, Option.none_or, if_pos (beq_self_eq_true _)]

/-- A container sees its whole specification: two variables are set for it, whatever they were, and
all others are those of the specification. One of the two lists the resources, each as often and in
the order as the specification has them, and the same resources can be had from it again, by every
reader that follows two containers. -/
theorem ofSpec_environment (h : ofSpec spec tokenFile command = .ok params) :
    Datum.entry? params.fields "environment" =
      some (.record (params.environment.map fun p => (p.1, .string p.2))) ∧
    (∀ name, name ≠ "FLOE_TOKEN_FILE" → name ≠ "FLOE_LOCAL_RESOURCES" →
      params.environment.get? name = spec.environment.get? name) ∧
    params.environment.get? "FLOE_TOKEN_FILE" = some "/run/floe/container_tokens" ∧
    ∃ text, params.environment.get? "FLOE_LOCAL_RESOURCES" = some text ∧
      ∃ document, (∀ depth, Json.readLenient (depth + 2) (Utf8.encode text) = .ok document) ∧
        document = .arr (spec.resources.map fun r => .ofFields [("resource", .text r.uri),
          ("size", .int r.size), ("timestamp", .int r.timestamp),
          ("visibility", .text r.visibility.name), ("type", .text r.type.name)]) ∧
        checkList .notTuple Resource.check (.ofJson document) = .ok spec.resources := by
  obtain ⟨text, volumes, budget, htext, -, -, rfl⟩ := ofSpec_eq_ok.mp h
  dsimp only
  refine ⟨entry?_environment _, ?_, ?_, text, ?_, _, readLenient_resourcesText htext, ?_,
    checkList_resources _ _⟩
  · intro name htoken hresources
    have htoken' : tokenFileVariable ≠ name := Ne.symm htoken
    have hresources' : resourcesVariable ≠ name := Ne.symm hresources
    rw [get?_environmentOf, if_neg hresources', if_neg htoken']
  · rw [get?_environmentOf]
    rfl
  · rw [get?_environmentOf]
    rfl
  · exact congrArg Json.arr (List.map_congr_left fun r _ => r.toJson_eq)

/-- A token file of its own, and resources of two schemes, one of them twice. -/
def overridingSpec : LaunchSpec :=
  ⟨1024, 819, [("FLOE_TOKEN_FILE", "/mine"), ("A", "")],
    [⟨"file:///t/𝄞", 5, 1009, .application, .file⟩, ⟨"s3://b/k", -1, 0, .application, .file⟩,
      ⟨"file:///t/𝄞", 5, 1009, .application, .file⟩], [], by decide⟩

theorem ofSpec_environment_overridingSpec : ∃ params,
    ofSpec overridingSpec (.ofText "/t/n.tokens") [] = .ok params ∧
    params.environment.get? "A" = some "" ∧
    params.environment.get? "FLOE_TOKEN_FILE" = some "/run/floe/container_tokens" ∧
    ∃ text, params.environment.get? "FLOE_LOCAL_RESOURCES" = some text ∧ ∃ document,
      Json.readLenient Json.usualDepth (Utf8.encode text) = .ok document ∧
      checkList .notTuple Resource.check (.ofJson document) = .ok overridingSpec.resources := by
  have hlocal : Uri.parse "file:///t/𝄞" = .ok ⟨"file", "", "/t/𝄞"⟩ := by decide +kernel
  have hremote : Uri.parse "s3://b/k" = .ok ⟨"s3", "b", "/k"⟩ := by decide +kernel
  have hwritable : ∀ r ∈ overridingSpec.resources, r.isWritable := by decide +kernel
  obtain ⟨params, hparams⟩ : ∃ params,
      ofSpec overridingSpec (.ofText "/t/n.tokens") [] = .ok params :=
    exists_ofSpec_iff.mpr ⟨hwritable, by decide, List.forall_mem_cons.mpr ⟨⟨_, hlocal⟩,
      List.forall_mem_cons.mpr ⟨⟨_, hremote⟩, List.forall_mem_singleton.mpr ⟨_, hlocal⟩⟩⟩⟩
  obtain ⟨-, hothers, htoken, text, htext, document, hdocument, -, hcheck⟩ :=
    ofSpec_environment hparams
  exact ⟨params, hparams, hothers "A" (by decide) (by decide), htoken, text, htext, document,
    hdocument _, hcheck⟩

end LaunchParameters
end ClusterAgent
