import AuditTrail.Proofs.IndexTemplate.Grammar

/-! # Rotation by day

Every part of a template has a fixed width, as long as years have four digits. So names that are
equal are equal part by part, and a template with fields for the year, the month and the day gives
each day names of its own.
-/

namespace AuditTrail.IndexTemplate

/-! ## Fields of a template -/

/-- A block of letters in a template stands for a date field, among others. -/
def Mentions (text : String) (f : DateField) : Prop :=
  ∃ b ∈ blocks text, b.isLetters = true ∧ f ∈ b.fields

instance (text : String) (f : DateField) : Decidable (Mentions text f) :=
  inferInstanceAs (Decidable (∃ b ∈ blocks text, b.isLetters = true ∧ f ∈ b.fields))

theorem Block.date_mem_parts_iff {b : Block} {f : DateField} :
    .date f ∈ b.parts ↔ b.isLetters = true ∧ f ∈ b.fields := by
  unfold parts
  by_cases hq : b.char = '\''
  · simp [hq, isLetters]
  · cases ha : b.isLetters <;> simp [hq]

theorem date_mem_parts_iff {text : String} (h : isAccepted text = true) {f : DateField} :
    .date f ∈ (ofText text).parts ↔ Mentions text f := by
  rw [parts_of_isAccepted h, List.mem_flatMap]
  simp only [Block.date_mem_parts_iff, Mentions]

/-! ## Names part by part -/

/-- Texts of the same widths are equal piece by piece if they are equal together. -/
theorem forall_eq_of_flatMap_eq {α β : Type} {f g : α → List β} {l : List α}
    (hl : ∀ a ∈ l, (f a).length = (g a).length) (h : l.flatMap f = l.flatMap g) :
    ∀ a ∈ l, f a = g a := by
  induction l with
  | nil => simp
  | cons a l ih =>
    rw [List.forall_mem_cons] at hl ⊢
    rw [List.flatMap_cons, List.flatMap_cons] at h
    obtain ⟨ha, ht⟩ := List.append_inj h hl.1
    exact ⟨ha, ih hl.2 ht⟩

section Instants

variable {t u : Instant}

theorem length_text_eq (ht : t.IsProper) (hu : u.IsProper)
    (hty : 0 ≤ t.date.year ∧ t.date.year ≤ 9999) (huy : 0 ≤ u.date.year ∧ u.date.year ≤ 9999)
    (p : Part) : (p.text t).length = (p.text u).length := by
  cases p with
  | literal c => rfl
  | date f =>
    rw [Part.text, Part.text, f.length_text ht fun _ => hty, f.length_text hu fun _ => huy]

theorem text_eq_of_name_eq (template : IndexTemplate) (ht : t.IsProper) (hu : u.IsProper)
    (hty : 0 ≤ t.date.year ∧ t.date.year ≤ 9999) (huy : 0 ≤ u.date.year ∧ u.date.year ≤ 9999)
    (h : template.name t = template.name u) : ∀ p ∈ template.parts, p.text t = p.text u := by
  rw [name, name, ← String.toList_inj, String.toList_join, String.toList_join, List.flatMap_map,
    List.flatMap_map] at h
  have hl : ∀ p ∈ template.parts, (p.text t).toList.length = (p.text u).toList.length := by
    intro p _
    rw [String.length_toList, String.length_toList]
    exact length_text_eq ht hu hty huy p
  intro p hp
  exact String.toList_inj.mp (forall_eq_of_flatMap_eq hl h p hp)

theorem text_eq_of_fields_eq (hd : t.date = u.date) (hh : t.hour = u.hour)
    (hm : t.minute = u.minute) (hs : t.second = u.second) (p : Part) : p.text t = p.text u := by
  cases p with
  | literal c => rfl
  | date f => cases f <;> simp only [Part.text, DateField.text, hd, hh, hm, hs]

theorem name_eq_of_fields_eq (template : IndexTemplate) (hd : t.date = u.date)
    (hh : t.hour = u.hour) (hm : t.minute = u.minute) (hs : t.second = u.second) :
    template.name t = template.name u := by
  rw [name, name, funext (text_eq_of_fields_eq hd hh hm hs)]

/-- An accepted template with a year of four digits, a month and a day never gives two days the same
name, whatever stands between and beside these fields, and gives instants that a clock shows alike
one name. -/
theorem rotates_daily {text : String} (ha : isAccepted text = true)
    (hy : Mentions text .year) (hm : Mentions text .month) (hd : Mentions text .day)
    (ht : t.IsProper) (hu : u.IsProper)
    (hty : 0 ≤ t.date.year ∧ t.date.year ≤ 9999) (huy : 0 ≤ u.date.year ∧ u.date.year ≤ 9999) :
    (t.seconds / 86400 ≠ u.seconds / 86400 → (ofText text).name t ≠ (ofText text).name u) ∧
    (t.date.year = u.date.year → t.date.month = u.date.month → t.date.day = u.date.day →
      t.hour = u.hour → t.minute = u.minute → t.second = u.second →
      (ofText text).name t = (ofText text).name u) := by
  constructor
  · intro hne hn
    have hp := text_eq_of_name_eq (ofText text) ht hu hty huy hn
    have hyear : yearText t.date.year = yearText u.date.year :=
      hp (.date .year) ((date_mem_parts_iff ha).mpr hy)
    have hmonth : padded 2 t.date.month = padded 2 u.date.month :=
      hp (.date .month) ((date_mem_parts_iff ha).mpr hm)
    have hday : padded 2 t.date.day = padded 2 u.date.day :=
      hp (.date .day) ((date_mem_parts_iff ha).mpr hd)
    refine hne (Instant.date_eq_iff.mp (Date.ext ?_ ?_ ?_))
    · exact eq_of_yearText_eq hty huy hyear
    · exact padded_injective 2 hmonth
    · exact padded_injective 2 hday
  · intro hyear hmonth hday
    exact name_eq_of_fields_eq _ (Date.ext hyear hmonth hday)

end Instants

/-- Digits beside the fields do no harm: here the last day of 2016, in its leap second, and the day
after it. -/
theorem rotates_daily_new_year :
    isAccepted "'1'ddMM'2'yyyy" = true ∧
      (ofText "'1'ddMM'2'yyyy").name ⟨1483228799, 1500000000⟩ ≠
        (ofText "'1'ddMM'2'yyyy").name ⟨1483228800, 0⟩ := by
  have ha : isAccepted "'1'ddMM'2'yyyy" = true := (isAccepted_iff _).mpr (by decide)
  refine ⟨ha, (rotates_daily ha ?_ ?_ ?_ ?_ ?_ ?_ ?_).1 ?_⟩ <;> decide

end AuditTrail.IndexTemplate
