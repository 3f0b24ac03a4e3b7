import AuditTrail.Proofs.Json.RoundTrip
import AuditTrail.Proofs.Record.Built
import AuditTrail.Remote.Format
import AuditTrail.Sink.Console
import AuditTrail.Sink.Storage

/-! # JSON text of records

A record is written as JSON in several places: with members in the order of the fields, where a
stored category or time comes again, or with members in the order of their names. All these
texts are read as one value.
-/

namespace AuditTrail.Record

open Json (Value)

/-- How deep a stored value may nest, so that readers still take the object of its record. -/
def maxDepth : Nat := 126

/-- Every stored value has integers for numbers and does not nest too deep to be read. -/
def IsReadable (r : Record) : Prop :=
  ∀ f v, r.value? f = some v → v.IsIntegral ∧ v.depth ≤ maxDepth

variable {r : Record}

theorem mem_entries {e : Field × Value} (h : e ∈ r.entries) :
    e = (.category, .string r.category.name) ∨ e = (.timestamp, .string r.created.text) ∨
      r.value? e.1 = some e.2 := by
  rcases List.mem_cons.mp h with h | h
  · exact Or.inl h
  · rcases List.mem_cons.mp h with h | h
    · exact Or.inr (Or.inl h)
    · obtain ⟨f, _, hf⟩ := List.mem_filterMap.mp h
      obtain ⟨v, hv, rfl⟩ := Option.map_eq_some_iff.mp hf
      exact Or.inr (Or.inr hv)

theorem forall_mem_members {P : Value → Prop} (hs : ∀ s, P (.string s))
    (hv : ∀ f v, r.value? f = some v → P v) : ∀ m ∈ r.members, P m.2 := by
  intro m hm
  obtain ⟨e, he, rfl⟩ := List.mem_map.mp hm
  rcases mem_entries he with rfl | rfl | hf
  · exact hs _
  · exact hs _
  · exact hv e.1 e.2 hf

theorem ordered_toValue (h : r.IsOrdered) : r.toValue.Ordered := by
  have hm : ∀ m ∈ r.members, m.2.Ordered := forall_mem_members .string h
  exact .object (Entries.ascending_ofList _)
    (Value.orderedMembers_of_forall fun m hme => hm m (Entries.mem_of_mem_ofList hme))

theorem normal_object_members (h : r.IsOrdered) : (Value.object r.members).normal = r.toValue := by
  have hm : ∀ m ∈ r.members, m.2.Ordered := forall_mem_members .string h
  rw [Value.normal, Value.normalMembers_of_ordered (Value.orderedMembers_of_forall hm), toValue]

namespace IsReadable

theorem object (h : r.IsReadable) {ms : List (String × Value)} (hms : ms ⊆ r.members) :
    (Value.object ms).IsIntegral ∧ (Value.object ms).depth ≤ Value.depthLimit := by
  have hm : ∀ m ∈ r.members, m.2.IsIntegral ∧ m.2.depth ≤ maxDepth :=
    forall_mem_members (fun s => ⟨trivial, Nat.zero_le _⟩) h
  constructor
  · exact Value.membersIntegral_iff.mpr fun m hme => (hm m (hms hme)).1
  · rw [Value.depth]
    have hd := Value.membersDepth_le_iff.mpr fun m hme => (hm m (hms hme)).2
    exact Nat.succ_le_succ hd

theorem toValue (h : r.IsReadable) :
    r.toValue.IsIntegral ∧ r.toValue.depth ≤ Value.depthLimit :=
  h.object fun _ hm => Entries.mem_of_mem_ofList hm

end IsReadable

/-! ## Reading the texts back -/

theorem ofText?_serialized (ho : r.IsOrdered) (h : r.IsReadable) :
    Value.ofText? r.serialized = some r.toValue := by
  obtain ⟨hi, hd⟩ := h.object (List.Subset.refl r.members)
  rw [serialized, Value.ofText?_compact hi hd, normal_object_members ho]

theorem ofText?_serializedPretty (ho : r.IsOrdered) (h : r.IsReadable) :
    Value.ofText? r.serializedPretty = some r.toValue := by
  obtain ⟨hi, hd⟩ := h.object (List.Subset.refl r.members)
  rw [serializedPretty, Value.ofText?_pretty hi hd, normal_object_members ho]

theorem ofText?_json (ho : r.IsOrdered) (h : r.IsReadable) :
    Value.ofText? r.json = some r.toValue := by
  obtain ⟨hi, hd⟩ := h.toValue
  rw [json, Value.ofText?_compact hi hd, Value.normal_of_ordered (ordered_toValue ho)]

/-- The message of a record is read as its text, whatever stands in the text. -/
theorem ofText?_message (s : String) :
    Value.ofText? (Value.object [("text", .string s)]).compact =
      some (.object [("text", .string s)]) := by
  have hi : (Value.object [("text", .string s)]).IsIntegral := ⟨trivial, trivial⟩
  have hd : (Value.object [("text", .string s)]).depth ≤ Value.depthLimit := by
    simp only [Value.depth, Value.membersDepth]
    decide
  have ho : (Value.object [("text", .string s)]).Ordered :=
    .object (List.pairwise_singleton _ _) (.cons (.string s) .nil)
  rw [Value.ofText?_compact hi hd, Value.normal_of_ordered ho]

/-- All JSON texts of a record are read as its object, which is also the body of its document;
the message for a chat is read as an object that has the text of the record and nothing else.
The record may come from any sequence of setters, so a field may be stored that says the
category or the time once more. -/
theorem renderings_agree (hb : r.Built) (h : r.IsReadable) :
    Value.ofText? r.serialized = some r.toValue ∧
      (∃ text, Console.entry r = Console.marker ++ text ++ "\n" ∧
        Value.ofText? text = some r.toValue) ∧
      Value.ofText? r.json = some r.toValue ∧
      (∃ body, Remote.Format.json.payload r = { body := some body } ∧
        Value.ofText? body = some r.toValue) ∧
      (∀ (s : Storage) (now : Instant), (s.document now r).body = r.toValue) ∧
      ∃ body, Remote.Format.slack.payload r = { body := some body } ∧
        Value.ofText? body = some (.object [("text", .string r.toText)]) := by
  have ho := hb.isOrdered
  refine ⟨ofText?_serialized ho h, ?_, ofText?_json ho h, ?_, fun _ _ => rfl, ?_⟩
  · exact ⟨r.serializedPretty, rfl, ofText?_serializedPretty ho h⟩
  · exact ⟨r.json, rfl, ofText?_json ho h⟩
  · exact ⟨_, rfl, ofText?_message r.toText⟩

theorem renderings_agree_of_stored_category :
    ∃ r : Record, r.value? .category = some (.string "ROOT") ∧ r.Built ∧ r.IsReadable ∧
      Value.ofText? r.serialized = some r.toValue ∧
      ∃ body, Remote.Format.slack.payload r = { body := some body } ∧
        Value.ofText? body = some (.object [("text", .string r.toText)]) := by
  let body : Value :=
    .object [("a", .array [.string "\x01\"é\n", .number (.int (-5))]), ("b", .bool true)]
  let start : Record := { category := .failedLogin, created := { seconds := 0 } }
  let r := (start.value .category (.string "ROOT")).value .requestBody body
  have hbody : body.Ordered :=
    .object (List.pairwise_pair.mpr (by decide))
      (.cons (.array (.cons (.string _) (.cons (.number _) .nil))) (.cons (.bool true) .nil))
  have hb : r.Built := .value (.value (.start _ _) _ (.string _)) _ hbody
  have hstart : start.IsReadable := fun f v hv => nomatch hv
  have hi : body.IsIntegral := ⟨⟨trivial, ⟨by decide, by decide⟩, trivial⟩, trivial, trivial⟩
  have hr : r.IsReadable :=
    forall_value?_store (forall_value?_store hstart (f := .category) (v := .string "ROOT")
      ⟨trivial, by decide⟩) (f := .requestBody) (v := body) ⟨hi, by decide⟩
  obtain ⟨hs, _, _, _, _, hm⟩ := renderings_agree hb hr
  exact ⟨r, rfl, hb, hr, hs, hm⟩

end AuditTrail.Record
