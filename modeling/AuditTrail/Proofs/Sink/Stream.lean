import AuditTrail.Proofs.Dispatch.Operations
import AuditTrail.Proofs.Json.SingleLine
import AuditTrail.Proofs.Record.JsonText
import AuditTrail.Proofs.Text.Sections

/-! # The stream of a console

Each record stands in the stream as a line with the marker and indented lines after it, whatever
texts it holds. So the lines with the marker tell the records apart, and what stands between two of
them is read as a record again.
-/

namespace AuditTrail

open Json (Value)
open Text (IsLine IsIndented BeginsInside isIndented_of_isLine)

/-! ## Indented values -/

namespace Json

theorem isIndented_newLine_succ (level : Nat) : IsIndented (Value.newLine (level + 1)) := by
  have hs : IsLine (List.replicate (2 * (level + 1)) ' ') := fun h =>
    absurd (List.eq_of_mem_replicate h) (by decide)
  exact .feed ⟨' ', List.replicate (2 * level + 1) ' ', rfl, Or.inl rfl⟩ (isIndented_of_isLine hs)

theorem isIndented_cons_newLine {c : Char} (hc : c ≠ '\n') (level : Nat) :
    IsIndented (c :: Value.newLine (level + 1)) :=
  .cons hc (isIndented_newLine_succ level)

theorem isIndented_newLine_end (level : Nat) {c : Char} (hc : c = ']' ∨ c = '}') :
    IsIndented (Value.newLine level ++ [c]) := by
  have hl : IsIndented [c] := isIndented_of_isLine (by rcases hc with rfl | rfl <;> decide)
  cases level with
  | zero => exact .feed ⟨c, [], rfl, Or.inr hc⟩ hl
  | succ level => exact (isIndented_newLine_succ level).append hl

theorem isIndented_member {start cs : List Char} (hs : IsIndented start) (key : String)
    (h : IsIndented cs) : IsIndented (start ++ quote key ++ ':' :: ' ' :: cs) := by
  have hk : IsIndented (quote key) := isIndented_of_isLine (isLine_quote key)
  exact (hs.append hk).append (.cons (by decide) (.cons (by decide) h))

namespace Value

mutual

theorem isIndented_prettyChars : ∀ (v : Value) (level : Nat), IsIndented (v.prettyChars level)
  | .null, _ | .bool true, _ | .bool false, _ | .array [], _ | .object [], _ =>
    isIndented_of_isLine (by simp [prettyChars])
  | .number n, _ => isIndented_of_isLine (isLine_numberChars n)
  | .string s, _ => isIndented_of_isLine (isLine_quote s)
  | .array (v :: vs), level => by
    have hs : IsIndented ('[' :: newLine (level + 1)) := isIndented_cons_newLine (by decide) level
    have hv := isIndented_prettyChars v (level + 1)
    exact (hs.append hv).append (isIndented_prettyItems vs level)
  | .object ((k, v) :: ms), level => by
    have hs : IsIndented ('{' :: newLine (level + 1)) := isIndented_cons_newLine (by decide) level
    have hv := isIndented_prettyChars v (level + 1)
    exact (isIndented_member hs k hv).append (isIndented_prettyMembers ms level)

theorem isIndented_prettyItems : ∀ (vs : List Value) (level : Nat),
    IsIndented (prettyItems level vs)
  | [], level => isIndented_newLine_end level (Or.inl rfl)
  | v :: vs, level => by
    have hs : IsIndented (',' :: newLine (level + 1)) := isIndented_cons_newLine (by decide) level
    have hv := isIndented_prettyChars v (level + 1)
    exact (hs.append hv).append (isIndented_prettyItems vs level)

theorem isIndented_prettyMembers : ∀ (ms : List (String × Value)) (level : Nat),
    IsIndented (prettyMembers level ms)
  | [], level => isIndented_newLine_end level (Or.inr rfl)
  | (k, v) :: ms, level => by
    have hs : IsIndented (',' :: newLine (level + 1)) := isIndented_cons_newLine (by decide) level
    have hv := isIndented_prettyChars v (level + 1)
    exact (isIndented_member hs k hv).append (isIndented_prettyMembers ms level)

end

theorem isIndented_pretty (v : Value) : IsIndented v.pretty.toList := by
  rw [pretty, String.toList_ofList]
  exact isIndented_prettyChars v 0

end Value

end Json

/-! ## Reading a section -/

namespace Record

variable {r : Record}

theorem isIndented_serializedPretty (r : Record) : IsIndented r.serializedPretty.toList := by
  rw [serializedPretty]
  exact Value.isIndented_pretty _

theorem ofText?_serializedPretty_feed (ho : r.IsOrdered) (h : r.IsReadable) :
    Value.ofText? (r.serializedPretty ++ "\n") = some r.toValue := by
  obtain ⟨hi, hd⟩ := h.object (List.Subset.refl r.members)
  have hr : ∀ c ∈ "\n".toList, Json.Token.isSpace c = true := List.forall_mem_singleton.mpr rfl
  rw [serializedPretty, Value.ofText?_pretty_append hi hd hr, normal_object_members ho]

end Record

namespace Console

open Text (cut lines)

/-! ## Cutting a stream -/

/-- What stands before the first line with the marker. -/
def preamble (stream : String) : String :=
  String.ofList (cut marker.toList (lines stream.toList)).1

/-- The text from each line with the marker to the next one, without the marker. -/
def sections (stream : String) : List String :=
  (cut marker.toList (lines stream.toList)).2.map String.ofList

theorem not_marker_prefix {l : List Char} (h : BeginsInside l) : ¬ marker.toList <+: l := by
  have hm : marker.toList = 'A' :: "UDIT_LOG: ".toList := by decide
  obtain ⟨c, rest, rfl, hc⟩ := h
  rw [hm, List.cons_prefix_cons]
  rintro ⟨rfl, -⟩
  simp at hc

/-- The entries of records are cut apart again, whatever the records hold. -/
theorem cut_entries (rs : List Record) :
    cut marker.toList (lines (String.join (rs.map entry)).toList) =
      ([], rs.map fun r => (r.serializedPretty ++ "\n").toList) := by
  have he : (String.join (rs.map entry)).toList =
      (rs.map (·.serializedPretty.toList)).flatMap fun block =>
        marker.toList ++ block ++ ['\n'] := by
    simp [String.toList_join, List.flatMap_map, entry]
  have hi : ∀ block ∈ rs.map (·.serializedPretty.toList), IsIndented block :=
    List.forall_mem_map.mpr fun r _ => r.isIndented_serializedPretty
  rw [he, Text.cut_blocks (by decide) (fun _ => not_marker_prefix) hi, List.map_map]
  simp

/-! ## Storing records -/

variable {σ : Type} {c : Console σ} {shown : σ → String}

/-- The stream never fails and keeps all that is written to it. -/
def Keeps (c : Console σ) (shown : σ → String) : Prop :=
  ∀ text s, ∃ s', (c.write text).run s = (.ok (), s') ∧ shown s' = shown s ++ text

theorem run_store (c : Console σ) (now : Instant) (r : Record) (s : σ) :
    (c.sink.store now r).run s =
      (.ofExcept (((c.write (entry r)).run s).1.mapError .io), ((c.write (entry r)).run s).2) :=
  rfl

theorem Keeps.store (h : c.Keeps shown) (now : Instant) (r : Record) (s : σ) :
    ∃ s', (c.sink.store now r).run s = (.stored, s') ∧ shown s' = shown s ++ entry r := by
  obtain ⟨s', hw, hs⟩ := h (entry r) s
  refine ⟨s', ?_, hs⟩
  rw [run_store, hw]
  rfl

theorem Keeps.stores (h : c.Keeps shown) (rs : List (Instant × Record)) (s : σ) :
    ∃ s', (rs.mapM fun e => c.sink.store e.1 e.2).run s = (rs.map fun _ => .stored, s') ∧
      shown s' = shown s ++ String.join (rs.map fun e => entry e.2) := by
  induction rs generalizing s with
  | nil => exact ⟨s, rfl, by simp⟩
  | cons e rs ih =>
    obtain ⟨s₁, h₁, hs₁⟩ := h.store e.1 e.2 s
    obtain ⟨s₂, h₂, hs₂⟩ := ih s₁
    refine ⟨s₂, ?_, ?_⟩
    · rw [List.mapM_cons, run_bind, h₁, run_bind, h₂]
      rfl
    · rw [hs₂, hs₁, List.map_cons, String.join_cons, String.append_assoc]

/-- Records that are stored one after the other are all taken, and what is written for them is cut
apart again: one line for each record begins with the marker, nothing stands before the first of
them, and the text from each of them to the next is read as the object of its record, in the order
of the records. Stored texts may hold line feeds and the marker itself. -/
theorem sections_of_stores (hc : c.Keeps shown) (rs : List (Instant × Record))
    (hr : ∀ e ∈ rs, e.2.Built ∧ e.2.IsReadable) (s : σ) :
    ∃ stream s', (rs.mapM fun e => c.sink.store e.1 e.2).run s = (rs.map fun _ => .stored, s') ∧
      shown s' = shown s ++ stream ∧
      (lines stream.toList).countP (marker.toList.isPrefixOf ·) = rs.length ∧
      preamble stream = "" ∧
      List.Forall₂ (fun text e => Value.ofText? text = some e.2.toValue) (sections stream) rs := by
  obtain ⟨s', hrun, hs⟩ := hc.stores rs s
  have hcut := cut_entries (rs.map Prod.snd)
  rw [List.map_map, List.map_map] at hcut
  change cut marker.toList (lines (String.join (rs.map fun e => entry e.2)).toList) = _ at hcut
  refine ⟨_, s', hrun, hs, ?count, ?before, ?read⟩
  case count =>
    rw [← Text.length_cut, hcut, List.length_map]
  case before =>
    rw [preamble, hcut, String.ofList_nil]
  case read =>
    rw [sections, hcut, List.map_map, List.forall₂_map_left_iff, List.forall₂_same]
    intro e he
    obtain ⟨hb, hread⟩ := hr e he
    change Value.ofText? (String.ofList (e.2.serializedPretty ++ "\n").toList) = _
    rw [String.ofList_toList]
    exact Record.ofText?_serializedPretty_feed hb.isOrdered hread

theorem sections_of_stores_of_marked_texts :
    ∃ (c : Console String) (r t : Record) (stream : String),
      r.value? .details = some (.string "\nAUDIT_LOG: \nAUDIT_LOG: ") ∧
      ([r, t].mapM (c.sink.store { seconds := 1 })).run "" = ([.stored, .stored], stream) ∧
      (lines stream.toList).countP (marker.toList.isPrefixOf ·) = 2 ∧
      ∃ first second, sections stream = [first, second] ∧
        Value.ofText? first = some r.toValue ∧ Value.ofText? second = some t.toValue := by
  let c : Console String :=
    { write := fun text => do modify (· ++ text); return .ok ()
      flush := pure (.ok ()) }
  have hc : c.Keeps id := fun text s => ⟨s ++ text, rfl, rfl⟩
  let body : Value := .object [("\n]", .array []), ("a", .array [.string "\n", .object []])]
  let start : Record := { category := .failedLogin, created := { seconds := 0 } }
  let message : Value := .string "\nAUDIT_LOG: \nAUDIT_LOG: "
  let r := start.value .details message
  let t := r.value .requestBody body
  have hitems : (Value.array [.string "\n", .object []]).Ordered :=
    .array (.cons (.string _) (.cons (.object .nil .nil) .nil))
  have hbody : body.Ordered :=
    .object (List.pairwise_pair.mpr (by decide)) (.cons (.array .nil) (.cons hitems .nil))
  have hr : r.Built := .value (.start _ _) _ (.string _)
  have ht : t.Built := .value hr _ hbody
  have hstart : start.IsReadable := fun f v hv => nomatch hv
  have hr' : r.IsReadable :=
    Record.forall_value?_store hstart (f := .details) (v := message) ⟨trivial, by decide⟩
  have hi : body.IsIntegral := ⟨trivial, ⟨trivial, trivial, trivial⟩, trivial⟩
  have ht' : t.IsReadable :=
    Record.forall_value?_store hr' (f := .requestBody) (v := body) ⟨hi, by decide⟩
  obtain ⟨stream, s', hrun, hs, hcount, -, hread⟩ :=
    sections_of_stores hc [({ seconds := 1 }, r), ({ seconds := 1 }, t)]
      (by simp [hr, hr', ht, ht']) ""
  rw [List.forall₂_cons_right_iff] at hread
  obtain ⟨first, more, hfirst, hmore, htexts⟩ := hread
  rw [List.forall₂_cons_right_iff] at hmore
  obtain ⟨second, rest, hsecond, hrest, rfl⟩ := hmore
  rw [List.forall₂_nil_right_iff] at hrest
  subst hrest
  obtain rfl : s' = stream := by rw [← String.empty_append (s := stream)]; exact hs
  exact ⟨c, r, t, s', rfl, hrun, hcount, first, second, htexts, hfirst, hsecond⟩

end Console

end AuditTrail
