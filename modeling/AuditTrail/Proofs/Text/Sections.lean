import AuditTrail.Proofs.Text.Split

/-! # Sections of a text

A text falls into lines, and at the lines that begin with a marker into sections. Blocks of lines
of which only the first has the marker, one after the other, are the sections of their text.
-/

namespace AuditTrail.Text

/-- The lines of a text, each with the line feed at its end, which only the last one may lack. -/
def lines (cs : List Char) : List (List Char) :=
  cs.foldr (fun c ls => if c = '\n' then ['\n'] :: ls else consFirst c ls) []

/-- Cuts lines before each one that begins with a marker. The first part of the result is the text
before all of these; the others are the text from each of them to the next, without the marker. -/
def cut (marker : List Char) : List (List Char) → List Char × List (List Char)
  | [] => ([], [])
  | line :: more =>
    if marker.isPrefixOf line then
      ([], (line.drop marker.length ++ (cut marker more).1) :: (cut marker more).2)
    else (line ++ (cut marker more).1, (cut marker more).2)

variable {marker line cs ds : List Char} {ls more : List (List Char)}

/-! ## Lines -/

theorem lines_line_append (h : IsLine line) (cs : List Char) :
    lines (line ++ '\n' :: cs) = (line ++ ['\n']) :: lines cs := by
  induction line with
  | nil => rfl
  | cons c line ih =>
    rw [isLine_cons] at h
    change (if c = '\n' then ['\n'] :: lines (line ++ '\n' :: cs)
      else consFirst c (lines (line ++ '\n' :: cs))) = _
    rw [if_neg h.1, ih h.2]
    rfl

theorem lines_flatMap (h : ∀ l ∈ ls, IsLine l) (cs : List Char) :
    lines (ls.flatMap (· ++ ['\n']) ++ cs) = ls.map (· ++ ['\n']) ++ lines cs := by
  induction ls with
  | nil => rfl
  | cons l ls ih =>
    rw [List.forall_mem_cons] at h
    rw [List.flatMap_cons, List.append_assoc, List.append_assoc, List.singleton_append,
      lines_line_append h.1, ih h.2]
    rfl

/-! ## Sections -/

theorem length_cut (marker : List Char) (ls : List (List Char)) :
    (cut marker ls).2.length = ls.countP marker.isPrefixOf := by
  induction ls with
  | nil => rfl
  | cons line ls ih =>
    rw [cut]
    split
    · next h => rw [List.countP_cons_of_pos h, List.length_cons, ih]
    · next h => rw [List.countP_cons_of_neg h, ih]

theorem cut_append (h : ∀ l ∈ ls, ¬ marker <+: l) (more : List (List Char)) :
    cut marker (ls ++ more) = (ls.flatten ++ (cut marker more).1, (cut marker more).2) := by
  induction ls with
  | nil => rfl
  | cons l ls ih =>
    rw [List.forall_mem_cons] at h
    have hl : ¬ marker.isPrefixOf l = true := fun hp => h.1 (List.isPrefixOf_iff_prefix.mp hp)
    rw [List.cons_append, cut, if_neg hl, ih h.2, List.flatten_cons, List.append_assoc]

theorem cut_cons (marker line : List Char) (more : List (List Char)) :
    cut marker ((marker ++ line) :: more) =
      ([], (line ++ (cut marker more).1) :: (cut marker more).2) := by
  have h : marker.isPrefixOf (marker ++ line) = true :=
    List.isPrefixOf_iff_prefix.mpr (List.prefix_append marker line)
  rw [cut, if_pos h, List.drop_left]

/-! ## Indented text -/

/-- The text begins as a line within a container does, or one at its end. -/
def BeginsInside (cs : List Char) : Prop := ∃ c rest, cs = c :: rest ∧ (c = ' ' ∨ c = ']' ∨ c = '}')

/-- Each line feed is followed by the beginning of a line within a container. -/
inductive IsIndented : List Char → Prop
  | nil : IsIndented []
  | cons {c : Char} {cs : List Char} (hc : c ≠ '\n') (h : IsIndented cs) : IsIndented (c :: cs)
  | feed {cs : List Char} (hb : BeginsInside cs) (h : IsIndented cs) : IsIndented ('\n' :: cs)

theorem BeginsInside.append (h : BeginsInside cs) (ds : List Char) : BeginsInside (cs ++ ds) := by
  obtain ⟨c, rest, rfl, hc⟩ := h
  exact ⟨c, rest ++ ds, rfl, hc⟩

theorem isIndented_of_isLine (h : IsLine cs) : IsIndented cs := by
  induction cs with
  | nil => exact .nil
  | cons c cs ih =>
    rw [isLine_cons] at h
    exact .cons h.1 (ih h.2)

theorem IsIndented.append (hc : IsIndented cs) (hd : IsIndented ds) : IsIndented (cs ++ ds) := by
  induction hc with
  | nil => exact hd
  | cons hc _ ih => exact .cons hc ih
  | feed hb _ ih => exact .feed (hb.append ds) ih

theorem IsIndented.exists_lines (h : IsIndented cs) : ∃ first rest,
    cs ++ ['\n'] = (first :: rest).flatMap (· ++ ['\n']) ∧ (∀ l ∈ first :: rest, IsLine l) ∧
      ∀ l ∈ rest, BeginsInside l := by
  induction h with
  | nil => exact ⟨[], [], rfl, by simp, by simp⟩
  | @cons c cs hc _ ih =>
    obtain ⟨first, rest, he, hl, hr⟩ := ih
    rw [List.forall_mem_cons] at hl
    refine ⟨c :: first, rest, ?_, List.forall_mem_cons.mpr ⟨isLine_cons.mpr ⟨hc, hl.1⟩, hl.2⟩, hr⟩
    rw [List.cons_append, he]
    rfl
  | feed hb _ ih =>
    obtain ⟨first, rest, he, hl, hr⟩ := ih
    obtain ⟨d, ds, rfl, hd⟩ := hb
    have hf : BeginsInside first := by
      cases first with
      | nil =>
        obtain ⟨rfl, -⟩ := List.cons.inj he
        simp at hd
      | cons e first =>
        obtain ⟨rfl, -⟩ := List.cons.inj he
        exact ⟨d, first, rfl, hd⟩
    refine ⟨[], first :: rest, ?_, List.forall_mem_cons.mpr ⟨isLine_nil, hl⟩,
      List.forall_mem_cons.mpr ⟨hf, hr⟩⟩
    rw [List.cons_append, he]
    rfl

/-- A block with the marker in front of indented text is a section, whatever comes after it. -/
theorem cut_block (hm : IsLine marker) (hi : ∀ l, BeginsInside l → ¬ marker <+: l)
    (h : IsIndented cs) (ds : List Char) :
    cut marker (lines (marker ++ cs ++ '\n' :: ds)) =
      ([], (cs ++ '\n' :: (cut marker (lines ds)).1) :: (cut marker (lines ds)).2) := by
  obtain ⟨first, rest, he, hl, hr⟩ := h.exists_lines
  rw [List.forall_mem_cons] at hl
  have hu : ∀ l ∈ rest.map (· ++ ['\n']), ¬ marker <+: l := by
    refine List.forall_mem_map.mpr fun l hmem => ?_
    exact hi _ ((hr l hmem).append _)
  have ht : marker ++ cs ++ '\n' :: ds =
      (marker ++ first) ++ '\n' :: (rest.flatMap (· ++ ['\n']) ++ ds) := by
    have hc : cs ++ '\n' :: ds = (cs ++ ['\n']) ++ ds := by simp
    rw [List.append_assoc, hc, he]
    simp
  have hs : cs ++ '\n' :: (cut marker (lines ds)).1 =
      (first ++ ['\n']) ++ ((rest.map (· ++ ['\n'])).flatten ++ (cut marker (lines ds)).1) := by
    have hc : cs ++ '\n' :: (cut marker (lines ds)).1 =
        (cs ++ ['\n']) ++ (cut marker (lines ds)).1 := by
      simp
    rw [hc, he, List.flatMap_cons, ← List.flatMap_def, List.append_assoc]
  rw [ht, lines_line_append (isLine_append.mpr ⟨hm, hl.1⟩), lines_flatMap hl.2, List.append_assoc,
    cut_cons, cut_append hu, hs]

/-- Blocks that are written one after the other are the sections of the text. -/
theorem cut_blocks (hm : IsLine marker) (hi : ∀ l, BeginsInside l → ¬ marker <+: l)
    {blocks : List (List Char)} (h : ∀ block ∈ blocks, IsIndented block) :
    cut marker (lines (blocks.flatMap fun block => marker ++ block ++ ['\n'])) =
      ([], blocks.map (· ++ ['\n'])) := by
  induction blocks with
  | nil => rfl
  | cons block blocks ih =>
    rw [List.forall_mem_cons] at h
    have hb := cut_block hm hi h.1 (blocks.flatMap fun block => marker ++ block ++ ['\n'])
    rw [List.flatMap_cons, List.append_assoc, List.singleton_append, hb, ih h.2]
    rfl

end AuditTrail.Text
