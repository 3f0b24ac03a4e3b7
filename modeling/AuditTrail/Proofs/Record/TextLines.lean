import AuditTrail.Proofs.Json.SingleLine
import AuditTrail.Proofs.Record.Setters
import AuditTrail.Record.Rendering

/-! # Lines of text

The text of a record is one line for each entry that has text to show, as long as no stored text
has a line feed. Then the lines tell labels and values, and with these the entries. A stored
text with a line feed, though, stands in the text as more than one line.
-/

namespace AuditTrail

open Text (IsLine)

/-! ## Times and categories -/

theorem isLine_padded (width n : Nat) : IsLine (padded width n).toList := by
  have hz : IsLine (List.replicate (width - (Json.digitChars n).length) '0') := Json.isLine_zeros _
  rw [padded, String.toList_ofList, Text.isLine_append]
  exact ⟨hz, Json.isLine_digitChars n⟩

theorem isLine_yearText (year : Int) : IsLine (yearText year).toList := by
  unfold yearText
  simp only
  split_ifs <;> simp [isLine_padded]

theorem Instant.isLine_text (t : Instant) : IsLine t.text.toList := by
  simp [Instant.text, isLine_padded, isLine_yearText]

theorem Category.isLine_name (c : Category) : IsLine c.name.toList := by
  cases c <;> decide

/-! ## Labels -/

theorem Field.isLine_label (f : Field) : IsLine f.label.toList := by
  cases f <;> decide

theorem Field.ne_colon_of_mem_label (f : Field) : ∀ c ∈ f.label.toList, (c != ':') = true := by
  have h : (f.label.toList.all fun c => c != ':') = true := by
    cases f <;> decide
  exact List.all_eq_true.mp h

theorem Field.label_injective {f g : Field} (h : f.label = g.label) : f = g :=
  eq_of_name_eq (fun f => by cases f <;> decide) h

namespace Record

open Json (Value)

variable {r : Record}

/-- No stored text has a line feed. -/
def IsSingleLined (r : Record) : Prop := ∀ f s, r.value? f = some (.string s) → IsLine s.toList

/-- The line of an entry, without its end. -/
def lineText (e : Field × String) : String := e.1.label ++ ": " ++ e.2

theorem toList_toText (r : Record) :
    r.toText.toList = (r.shown.map fun e => (lineText e).toList).flatMap (· ++ ['\n']) := by
  simp [toText, String.toList_join, List.flatMap_map, line, lineText]

theorem isLine_lineText_iff (e : Field × String) :
    IsLine (lineText e).toList ↔ IsLine e.2.toList := by
  simp [lineText, e.1.isLine_label]

/-! ## Which texts are lines -/

theorem mem_shown_iff {f : Field} {t : String} :
    (f, t) ∈ r.shown ↔ t ≠ "" ∧ ∃ v, (f, v) ∈ r.entries ∧ v.display = t := by
  simp only [shown, strings, List.mem_filter, List.mem_map, Prod.mk.injEq, Prod.exists]
  constructor
  · rintro ⟨⟨f', v, he, rfl, rfl⟩, hn⟩
    exact ⟨by simpa using hn, v, he, rfl⟩
  · rintro ⟨hn, v, he, rfl⟩
    exact ⟨⟨f, v, he, rfl, rfl⟩, by simpa using hn⟩

theorem mem_entries_of_value? {f : Field} {v : Value} (h : r.value? f = some v) :
    (f, v) ∈ r.entries := by
  refine List.mem_cons_of_mem _ (List.mem_cons_of_mem _ ?_)
  exact List.mem_filterMap.mpr ⟨f, f.mem_all, by rw [h, Option.map_some]⟩

theorem isLine_display (h : r.IsSingleLined) {f : Field} {v : Value} (he : (f, v) ∈ r.entries) :
    IsLine v.display.toList := by
  rcases List.mem_cons.mp he with he | he
  · obtain ⟨rfl, rfl⟩ := Prod.mk.inj he
    exact r.category.isLine_name
  · rcases List.mem_cons.mp he with he | he
    · obtain ⟨rfl, rfl⟩ := Prod.mk.inj he
      exact r.created.isLine_text
    · obtain ⟨g, _, hg⟩ := List.mem_filterMap.mp he
      obtain ⟨w, hw, hp⟩ := Option.map_eq_some_iff.mp hg
      obtain ⟨rfl, rfl⟩ := Prod.mk.inj hp
      cases w with
      | string s => exact h g s hw
      | _ => exact Value.isLine_compact _

theorem isSingleLined_iff : r.IsSingleLined ↔ ∀ e ∈ r.shown, IsLine e.2.toList := by
  constructor
  · rintro h ⟨f, t⟩ he
    obtain ⟨_, v, hv, rfl⟩ := mem_shown_iff.mp he
    exact isLine_display h hv
  · intro h f s hs
    by_cases hn : s = ""
    · simp [hn]
    · exact h (f, s) (mem_shown_iff.mpr ⟨hn, .string s, mem_entries_of_value? hs, rfl⟩)

/-! ## Reading the lines -/

/-- A line is cut after its first colon and the blank behind it. -/
def readLine (text : String) : String × String :=
  (.ofList (text.toList.takeWhile (· != ':')), .ofList ((text.toList.dropWhile (· != ':')).drop 2))

/-- What stands before line feeds, cut into labels and values. -/
def readText (text : String) : List (String × String) :=
  (Text.split '\n' text).dropLast.map readLine

theorem readLine_lineText (e : Field × String) : readLine (lineText e) = (e.1.label, e.2) := by
  have hl := e.1.ne_colon_of_mem_label
  simp [readLine, lineText, List.takeWhile_append_of_pos hl, List.dropWhile_append_of_pos hl]

theorem split_toText (h : r.IsSingleLined) :
    Text.split '\n' r.toText = r.shown.map lineText ++ [""] := by
  have hp : ∀ part ∈ r.shown.map fun e => (lineText e).toList, ∀ c ∈ part, (c == '\n') = false := by
    intro part hm c hc
    obtain ⟨e, he, rfl⟩ := List.mem_map.mp hm
    have hline := (isLine_lineText_iff e).mpr (isSingleLined_iff.mp h e he)
    exact beq_eq_false_iff_ne.mpr fun hn => hline (hn ▸ hc)
  rw [Text.split, toList_toText, Text.splitWhere_flatMap (s := '\n') rfl hp]
  simp [Function.comp_def]

/-- A text that splits into the lines of the entries comes from values without line feeds. -/
theorem isSingleLined_of_split (h : Text.split '\n' r.toText = r.shown.map lineText ++ [""]) :
    r.IsSingleLined := by
  refine isSingleLined_iff.mpr fun e he => (isLine_lineText_iff e).mp ?_
  have hm : lineText e ∈ Text.split '\n' r.toText := by
    rw [h]
    exact List.mem_append_left _ (List.mem_map_of_mem he)
  exact (Text.of_mem_split hm).2

theorem readText_toText (h : r.IsSingleLined) :
    readText r.toText = r.shown.map fun e => (e.1.label, e.2) := by
  rw [readText, split_toText h, List.dropLast_concat, List.map_map]
  exact List.map_congr_left fun e _ => readLine_lineText e

/-- Records with other entries have another text. -/
theorem shown_eq_of_toText_eq {s : Record} (hr : r.IsSingleLined) (hs : s.IsSingleLined)
    (h : r.toText = s.toText) : r.shown = s.shown := by
  have hread := readText_toText hr
  rw [h, readText_toText hs] at hread
  refine ((List.map_inj_right fun e d he => ?_).mp hread).symm
  obtain ⟨hl, hv⟩ := Prod.mk.inj he
  exact Prod.ext (Field.label_injective hl) hv

/-! ## Setters -/

theorem isSingleLined_store_iff (hf : r.value? f = none) {v : Json.Value} :
    (r.store f v).IsSingleLined ↔
      r.IsSingleLined ∧ ∀ s, v = .string s → IsLine s.toList := by
  constructor
  · intro h
    refine ⟨fun g s hs => ?_, fun s hs => h f s (by rw [value?_store_self, hs])⟩
    have hg : g ≠ f := by
      rintro rfl
      rw [hf] at hs
      contradiction
    exact h g s (by rw [value?_store_of_ne hg, hs])
  · rintro ⟨hr, hv⟩ g s hs
    by_cases hg : g = f
    · subst hg
      rw [value?_store_self, Option.some.injEq] at hs
      exact hv s hs
    · rw [value?_store_of_ne hg] at hs
      exact hr g s hs

theorem isSingleLined_start (c : Category) (now : Instant) :
    ({ category := c, created := now } : Record).IsSingleLined :=
  fun _ _ hs => nomatch hs

theorem isSingleLined_text_iff (hf : r.value? f = none) {t : Option String} :
    (r.text f t).IsSingleLined ↔ r.IsSingleLined ∧ ∀ s, t = some s → IsLine s.toList := by
  rcases r.text_eq_store_or f t with ⟨s, rfl, _, hs⟩ | ⟨he, hr⟩
  · rw [hs, isSingleLined_store_iff hf]
    simp
  · rw [hr]
    refine ⟨fun h => ⟨h, fun s hs => ?_⟩, And.left⟩
    rw [he s hs]
    exact Text.isLine_nil

theorem isSingleLined_flag_iff (hf : r.value? f = none) {b : Option Bool} :
    (r.flag f b).IsSingleLined ↔ r.IsSingleLined := by
  cases b with
  | none => rfl
  | some b =>
    rw [flag, isSingleLined_store_iff hf]
    simp

theorem isSingleLined_list_iff (hf : r.value? f = none) {items : List String} :
    (r.list f items).IsSingleLined ↔ r.IsSingleLined := by
  cases items with
  | nil => rfl
  | cons s items =>
    have hs : (r.list f (s :: items)) = r.store f (.strings (s :: items)) := rfl
    rw [hs, isSingleLined_store_iff hf]
    simp [Json.Value.strings]

theorem isSingleLined_table_iff (hf : r.value? f = none) {t : Table String} :
    (r.table f t).IsSingleLined ↔ r.IsSingleLined := by
  unfold table
  split
  · rfl
  · rw [isSingleLined_store_iff hf]
    simp

/-! ## Texts of records -/

/-- The text of a record splits on line feeds into one line for each entry with text to show, in
their order, exactly where no stored text has a line feed. There the lines tell the entries, and
records with other entries have another text. -/
theorem toText_lines (r : Record) :
    (Text.split '\n' r.toText = r.shown.map lineText ++ [""] ↔ r.IsSingleLined) ∧
      (r.IsSingleLined → readText r.toText = r.shown.map fun e => (e.1.label, e.2)) ∧
      ∀ s : Record, r.IsSingleLined → s.IsSingleLined → r.toText = s.toText →
        r.shown = s.shown := by
  refine ⟨⟨isSingleLined_of_split, split_toText⟩, readText_toText, ?_⟩
  intro s hr hs h
  exact shown_eq_of_toText_eq hr hs h

/-- Whatever the order of the setters, the text of a record tells who failed to log in. -/
theorem toText_lines_of_failed_login :
    ∃ r s : Record, r.IsSingleLined ∧ s.IsSingleLined ∧ r.toText = s.toText ∧
      r.shown = s.shown ∧ readText r.toText =
        [("Category", "FAILED_LOGIN"), ("Timestamp", "1970-01-01T00:00:00.000Z"),
          ("User", "mallory"), ("Remote address", "203.0.113.9")] := by
  let start : Record := { category := .failedLogin, created := ⟨0, 0⟩ }
  let r := (start.text .effectiveUser (some "mallory")).text .remoteAddress (some "203.0.113.9")
  let s := (start.text .remoteAddress (some "203.0.113.9")).text .effectiveUser (some "mallory")
  have hr : r.IsSingleLined := by
    rw [isSingleLined_text_iff rfl, isSingleLined_text_iff rfl]
    refine ⟨⟨isSingleLined_start _ _, ?_⟩, ?_⟩ <;> rintro _ ⟨⟩ <;> decide
  have hs : s.IsSingleLined := by
    rw [isSingleLined_text_iff rfl, isSingleLined_text_iff rfl]
    refine ⟨⟨isSingleLined_start _ _, ?_⟩, ?_⟩ <;> rintro _ ⟨⟩ <;> decide
  have ht : r.toText = s.toText := by decide +kernel
  obtain ⟨_, hread, hshown⟩ := toText_lines r
  exact ⟨r, s, hr, hs, ht, hshown s hr hs ht, (hread hr).trans (by decide +kernel)⟩

end Record

end AuditTrail
