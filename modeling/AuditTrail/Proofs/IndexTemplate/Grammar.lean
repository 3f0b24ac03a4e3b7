import AuditTrail.Proofs.IndexTemplate.Blocks
import AuditTrail.Proofs.Time
import Mathlib.Data.Nat.Init

/-! # The grammar of templates

Half of the quotes of a block stand for themselves, quoted characters and characters that are no
letters do so too, and a block of letters stands for date fields, if it can be cut into them. A
template is accepted where all blocks of letters can be cut and all that is quoted ends, and any
other template is a name as it stands.
-/

namespace AuditTrail.IndexTemplate

/-! ## Reading a block -/

section Reading

variable {q : Bool} {c : Char} {rest : List Char}

theorem parts?_quotes (k : Nat) (hr : rest.head? ≠ some '\'') (q : Bool) :
    parts? q (List.replicate k '\'' ++ rest) =
      (parts? (q != (k % 2 == 1)) rest).map (List.replicate (k / 2) (.literal '\'') ++ ·) := by
  induction k using Nat.twoStepInduction with
  | zero => simp
  | one =>
    rw [List.replicate_one, List.singleton_append, parts?]
    · simp
    · rintro rest' rfl
      exact hr rfl
  | more k ih _ =>
    rw [List.replicate_succ, List.replicate_succ, List.cons_append, List.cons_append, parts?, ih,
      Option.map_map]
    simp only [Nat.add_mod_right, Nat.add_div_right _ Nat.two_pos, List.replicate_succ]
    rfl

theorem parts?_copied (hc : c ≠ '\'') (hq : q = true ∨ c.isAlpha = false) (n : Nat)
    (rest : List Char) :
    parts? q (List.replicate n c ++ rest) =
      (parts? q rest).map (List.replicate n (.literal c) ++ ·) := by
  induction n with
  | zero => simp
  | succ n ih =>
    have hq' : (q || !c.isAlpha) = true := by simpa using hq
    rw [List.replicate_succ, List.cons_append, parts?, if_pos hq', ih, Option.map_map]
    · rfl
    · simp [hc]
    · simp [hc]

theorem parts?_letter (hc : c.isAlpha = true) (rest : List Char) :
    parts? false (c :: rest) =
      (dateField? (c :: rest)).bind fun p => (parts? false p.2).map (.date p.1 :: ·) := by
  have hq : c ≠ '\'' := by rintro rfl; cases hc
  rw [parts?, if_neg (by simp [hc])]
  · split <;> simp_all
  · simp [hq]
  · simp [hq]

/-- The field that two of a letter stand for. -/
def pairField? : Char → Option DateField
  | 'y' => some .yearOfCentury
  | 'M' => some .month
  | 'd' => some .day
  | 'H' => some .hour
  | 'm' => some .minute
  | 's' => some .second
  | _ => none

theorem dateField?_one (hr : rest.head? ≠ some c) : dateField? (c :: rest) = none := by
  unfold dateField?
  split <;> simp_all

theorem dateField?_two (hr : rest.head? ≠ some c) :
    dateField? (c :: c :: rest) = (pairField? c).map fun f => (f, rest) := by
  unfold dateField? pairField?
  split <;> simp_all

theorem dateField?_pair (hy : c ≠ 'y') (hY : c ≠ 'Y') (rest : List Char) :
    dateField? (c :: c :: rest) = (pairField? c).map fun f => (f, rest) := by
  unfold dateField? pairField?
  split <;> simp_all

theorem parts?_one (hc : c.isAlpha = true) (hr : rest.head? ≠ some c) :
    parts? false (c :: rest) = none := by
  rw [parts?_letter hc, dateField?_one hr, Option.bind_none]

theorem parts?_years (hr : rest.head? ≠ some 'y') (n : Nat) :
    parts? false (List.replicate n 'y' ++ rest) =
      if n % 2 == 0 then
        (parts? false rest).map ((List.replicate (n / 4) DateField.year ++
          List.replicate (n % 4 / 2) DateField.yearOfCentury).map .date ++ ·)
      else none := by
  induction n using Nat.strong_induction_on with
  | _ n ih =>
    match n with
    | 0 => simp
    | 1 => exact parts?_one rfl hr
    | 2 =>
      change parts? false ('y' :: 'y' :: rest) = _
      rw [parts?_letter rfl, dateField?_two hr]
      rfl
    | 3 =>
      change parts? false ('y' :: 'y' :: 'y' :: rest) = _
      have h : dateField? ('y' :: 'y' :: 'y' :: rest) = some (.yearOfCentury, 'y' :: rest) := by
        unfold dateField?
        split <;> simp_all
      rw [parts?_letter rfl, h, Option.bind_some, parts?_one rfl hr]
      rfl
    | n + 4 =>
      change parts? false ('y' :: 'y' :: 'y' :: 'y' :: (List.replicate n 'y' ++ rest)) = _
      rw [parts?_letter rfl, dateField?, Option.bind_some, ih n (by omega)]
      have h2 : (n + 4) % 2 = n % 2 := by omega
      have h4 : (n + 4) / 4 = n / 4 + 1 := by omega
      rw [h2, h4, Nat.add_mod_right]
      split
      · rw [Option.map_map]
        rfl
      · rfl

theorem parts?_weekYears (hr : rest.head? ≠ some 'Y') (n : Nat) :
    parts? false (List.replicate n 'Y' ++ rest) =
      if n % 4 == 0 then
        (parts? false rest).map ((List.replicate (n / 4) DateField.year).map .date ++ ·)
      else none := by
  induction n using Nat.strong_induction_on with
  | _ n ih =>
    match n with
    | 0 => simp
    | 1 => exact parts?_one rfl hr
    | 2 =>
      change parts? false ('Y' :: 'Y' :: rest) = _
      rw [parts?_letter rfl, dateField?_two hr]
      rfl
    | 3 =>
      change parts? false ('Y' :: 'Y' :: 'Y' :: rest) = _
      have h : dateField? ('Y' :: 'Y' :: 'Y' :: rest) = none := by
        unfold dateField?
        split <;> simp_all
      rw [parts?_letter rfl, h]
      rfl
    | n + 4 =>
      change parts? false ('Y' :: 'Y' :: 'Y' :: 'Y' :: (List.replicate n 'Y' ++ rest)) = _
      rw [parts?_letter rfl, dateField?, Option.bind_some, ih n (by omega)]
      have h4 : (n + 4) / 4 = n / 4 + 1 := by omega
      rw [h4, Nat.add_mod_right]
      split
      · rw [Option.map_map]
        rfl
      · rfl

theorem parts?_pairs {f : DateField} (hc : c.isAlpha = true) (hy : c ≠ 'y') (hY : c ≠ 'Y')
    (hf : pairField? c = some f) (hr : rest.head? ≠ some c) (n : Nat) :
    parts? false (List.replicate n c ++ rest) =
      if n % 2 == 0 then
        (parts? false rest).map ((List.replicate (n / 2) f).map .date ++ ·)
      else none := by
  induction n using Nat.twoStepInduction with
  | zero => simp
  | one => exact parts?_one hc hr
  | more n ih _ =>
    change parts? false (c :: c :: (List.replicate n c ++ rest)) = _
    rw [parts?_letter hc, dateField?_pair hy hY, hf, Option.map_some, Option.bind_some, ih]
    simp only [Nat.add_mod_right, Nat.add_div_right _ Nat.two_pos, List.replicate_succ]
    split
    · rw [Option.map_map]
      rfl
    · rfl

theorem parts?_stray (hc : c.isAlpha = true) (hy : c ≠ 'y') (hY : c ≠ 'Y')
    (hf : pairField? c = none) (hr : rest.head? ≠ some c) {n : Nat} (hn : 0 < n) :
    parts? false (List.replicate n c ++ rest) = none := by
  match n with
  | 1 => exact parts?_one hc hr
  | n + 2 =>
    change parts? false (c :: c :: (List.replicate n c ++ rest)) = _
    rw [parts?_letter hc, dateField?_pair hy hY, hf]
    rfl

theorem parts?_letters {b : Block} (ha : b.char.isAlpha = true) (hl : 0 < b.length)
    (hr : rest.head? ≠ some b.char) :
    parts? false (b.chars ++ rest) =
      if b.isCut then (parts? false rest).map (b.fields.map .date ++ ·) else none := by
  obtain ⟨c, n, q⟩ := b
  unfold Block.isCut Block.fields Block.chars
  dsimp only at ha hl hr ⊢
  split
  · exact parts?_years hr n
  · exact parts?_pairs rfl (by decide) (by decide) rfl hr n
  · exact parts?_pairs rfl (by decide) (by decide) rfl hr n
  · exact parts?_pairs rfl (by decide) (by decide) rfl hr n
  · exact parts?_pairs rfl (by decide) (by decide) rfl hr n
  · exact parts?_pairs rfl (by decide) (by decide) rfl hr n
  · exact parts?_weekYears hr n
  · next hy hM hd hH hm hs hY =>
    have hf : pairField? c = none := by
      unfold pairField?
      split <;> simp_all
    exact parts?_stray ha hy hY hf hr hl

/-- Reading a block: letters must be cut, and quotes turn round what follows. -/
theorem parts?_block {b : Block} (hl : 0 < b.length) (hr : rest.head? ≠ some b.char) :
    parts? b.quoted (b.chars ++ rest) =
      if b.isLetters && !b.isCut then none
      else (parts? b.quotesAfter rest).map (b.parts ++ ·) := by
  unfold Block.quotesAfter Block.parts
  by_cases hc : b.char = '\''
  · rw [if_pos hc, if_neg (by simp [Block.isLetters, hc]), Block.chars, hc]
    simpa only [hc, if_true, List.map_replicate] using parts?_quotes b.length (hc ▸ hr) b.quoted
  · rw [if_neg hc]
    by_cases ha : b.isLetters = true
    · obtain ⟨ha', hq⟩ : b.char.isAlpha = true ∧ b.quoted = false := by
        simpa [Block.isLetters] using ha
      rw [hq, parts?_letters ha' hl hr]
      cases b.isCut <;> simp [ha, hc]
    · have hq : b.quoted = true ∨ b.char.isAlpha = false := by
        unfold Block.isLetters at ha
        cases hb : b.quoted <;> simp_all
      rw [Block.chars, parts?_copied hc hq]
      simp [ha, hc]

theorem head?_flatMap_chars {bs : List Block} (hl : ∀ b ∈ bs, 0 < b.length) :
    (bs.flatMap Block.chars).head? = bs.head?.map Block.char := by
  cases bs with
  | nil => rfl
  | cons b bs =>
    obtain ⟨n, hn⟩ := Nat.exists_eq_add_of_lt (hl b List.mem_cons_self)
    simp [Block.chars, hn, List.replicate_succ]

/-- Reading blocks one after the other. What is quoted must have ended. -/
theorem parts?_flatMap {bs : List Block} (h : Follow q bs) :
    parts? q (bs.flatMap Block.chars) =
      if (q == ((bs.flatMap Block.chars).count '\'' % 2 == 1)) &&
        bs.all fun b => !b.isLetters || b.isCut
      then some (bs.flatMap Block.parts) else none := by
  induction h with
  | nil q => cases q <;> simp [parts?]
  | @cons b bs hl hn ht ih =>
    have hr : (bs.flatMap Block.chars).head? ≠ some b.char := by
      rw [head?_flatMap_chars ht.length_pos]
      intro he
      obtain ⟨a, ha, hc⟩ := Option.map_eq_some_iff.mp he
      exact hn a ha hc
    rw [List.flatMap_cons, parts?_block hl hr, ih, List.all_cons, List.flatMap_cons,
      List.count_append, odd_add, Block.quotesAfter_eq]
    cases b.isLetters <;> cases b.isCut <;> cases b.quoted <;>
      cases b.chars.count '\'' % 2 == 1 <;>
      simp [apply_ite (Option.map (b.parts ++ ·))]

end Reading

/-! ## Whole templates -/

/-- Whether a text can be read as a template. -/
def isAccepted (text : String) : Bool := (parts? false text.toList).isSome

/-- What a block of an accepted template gives at a point in time. -/
def Block.text (now : Instant) (b : Block) : String :=
  if b.char = '\'' then String.ofList (List.replicate (b.length / 2) '\'')
  else if b.isLetters then String.join (b.fields.map (DateField.text now))
  else String.ofList b.chars

theorem parts?_eq (text : String) :
    parts? false text.toList =
      if text.toList.count '\'' % 2 = 0 ∧ ∀ b ∈ blocks text, b.isLetters = true → b.isCut = true
      then some ((blocks text).flatMap Block.parts) else none := by
  have h := parts?_flatMap (follow_blocksFrom false text.toList)
  rw [flatMap_chars_blocksFrom] at h
  rw [h]
  refine if_congr ?_ rfl rfl
  rw [Bool.and_eq_true, List.all_eq_true, beq_iff_eq, eq_comm, Bool.eq_false_iff, Ne, beq_iff_eq]
  refine and_congr Nat.mod_two_ne_one (forall₂_congr fun b _ => ?_)
  cases b.isLetters <;> simp

theorem join_literals (now : Instant) (cs : List Char) :
    String.join ((cs.map Part.literal).map (Part.text now)) = String.ofList cs := by
  rw [← String.toList_inj, String.toList_join, String.toList_ofList, List.map_map,
    List.flatMap_map]
  simp [Part.text]

theorem Block.join_parts (now : Instant) (b : Block) :
    String.join (b.parts.map (Part.text now)) = b.text now := by
  unfold parts text
  split
  · exact join_literals now _
  · split
    · rw [List.map_map]
      rfl
    · exact join_literals now b.chars

theorem join_flatMap_parts (now : Instant) (bs : List Block) :
    String.join ((bs.flatMap Block.parts).map (Part.text now)) =
      String.join (bs.map (Block.text now)) := by
  induction bs with
  | nil => rfl
  | cons b bs ih =>
    rw [List.flatMap_cons, List.map_append, String.join_append, ih, b.join_parts]
    simp

theorem Block.fields_ne_nil {b : Block} (hl : 0 < b.length) (hc : b.isCut = true) :
    b.fields ≠ [] := by
  obtain ⟨c, n, q⟩ := b
  unfold isCut at hc
  unfold fields
  dsimp only at hl hc ⊢
  split at hc <;> simp at hc ⊢ <;> omega

theorem Block.any_isDate_parts {b : Block} (hl : 0 < b.length)
    (hc : b.isLetters = true → b.isCut = true) : b.parts.any Part.isDate = b.isLetters := by
  unfold parts
  by_cases hq : b.char = '\''
  · simp [hq, isLetters, Part.isDate]
  · rw [if_neg hq]
    cases ha : b.isLetters with
    | false => simp [Part.isDate, Function.comp_def]
    | true =>
      obtain ⟨f, fs, hf⟩ := List.exists_cons_of_ne_nil (fields_ne_nil hl (hc ha))
      simp [hf, Part.isDate]

/-- How many digits a date field has, as long as years have no more than four. -/
def DateField.width : DateField → Nat
  | year => 4
  | _ => 2

theorem DateField.length_text {now : Instant} (hn : now.IsProper) (f : DateField)
    (hy : f = .year → 0 ≤ now.date.year ∧ now.date.year ≤ 9999) :
    (f.text now).length = f.width := by
  have h2 : ∀ n, n ≤ 99 → (padded 2 n).length = 2 := fun n h =>
    length_padded Nat.two_pos (Nat.lt_succ_of_le h)
  have := now.month_le
  have := now.day_le
  have := now.hour_lt
  have := now.minute_lt
  have := Instant.second_le hn
  cases f with
  | year =>
    obtain ⟨h, h'⟩ := hy rfl
    rw [text, yearText_of_le h h']
    exact length_padded (by decide) (by change _ < 10000; omega)
  | _ => exact h2 _ (by omega)

theorem DateField.isDigit_of_mem_text {now : Instant} {f : DateField}
    (hy : f = .year → 0 ≤ now.date.year ∧ now.date.year ≤ 9999) :
    ∀ c ∈ (f.text now).toList, c.isDigit = true := by
  intro c hc
  cases f with
  | year =>
    obtain ⟨h, h'⟩ := hy rfl
    rw [text, yearText_of_le h h'] at hc
    exact isDigit_of_mem_padded hc
  | _ => exact isDigit_of_mem_padded hc

theorem isAccepted_iff (text : String) :
    isAccepted text = true ↔ text.toList.count '\'' % 2 = 0 ∧
      ∀ b ∈ blocks text, b.isLetters = true → b.isCut = true := by
  rw [isAccepted, parts?_eq]
  split <;> simp_all

theorem parts_of_isAccepted {text : String} (h : isAccepted text = true) :
    (ofText text).parts = (blocks text).flatMap Block.parts := by
  rw [ofText, parts?_eq, if_pos ((isAccepted_iff text).mp h), Option.getD_some]

theorem parts_of_not_isAccepted {text : String} (h : isAccepted text = false) :
    (ofText text).parts = text.toList.map .literal := by
  have hn : parts? false text.toList = none := Option.not_isSome_iff_eq_none.mp (by
    rwa [Bool.not_eq_true])
  rw [ofText, hn, Option.getD_none]

theorem isDated_iff_of_isAccepted {text : String} (h : isAccepted text = true) :
    (ofText text).isDated = true ↔ ∃ b ∈ blocks text, b.isLetters = true := by
  have hl := (isCutInto_blocks text).length_pos
  have hc := ((isAccepted_iff text).mp h).2
  rw [isDated, parts_of_isAccepted h, List.any_flatMap, List.any_eq_true]
  constructor
  · rintro ⟨b, hb, hd⟩
    exact ⟨b, hb, Block.any_isDate_parts (hl b hb) (hc b hb) ▸ hd⟩
  · rintro ⟨b, hb, ha⟩
    exact ⟨b, hb, (Block.any_isDate_parts (hl b hb) (hc b hb)).trans ha⟩

/-- The grammar of templates. A template is accepted iff its quotes are even and its blocks of
letters can be cut into date fields, and then each block gives its part of the name. Date fields
have two digits and years have four, but years that need more or lie before year zero have a sign
before four digits at least. -/
theorem name_by_blocks (text : String) :
    IsCutInto text.toList (blocks text) ∧
    (isAccepted text = true ↔ text.toList.count '\'' % 2 = 0 ∧
      ∀ b ∈ blocks text, b.isLetters = true → b.isCut = true) ∧
    (isAccepted text = true →
      (∀ now, (ofText text).name now = String.join ((blocks text).map (Block.text now))) ∧
      ((ofText text).isDated = true ↔ ∃ b ∈ blocks text, b.isLetters = true)) ∧
    (isAccepted text = false →
      (∀ now, (ofText text).name now = text) ∧ (ofText text).isDated = false) ∧
    (∀ (now : Instant) (f : DateField), now.IsProper →
      (f = .year → 0 ≤ now.date.year ∧ now.date.year ≤ 9999) →
      (f.text now).length = f.width ∧ ∀ c ∈ (f.text now).toList, c.isDigit = true) ∧
    ∀ now : Instant, ¬(0 ≤ now.date.year ∧ now.date.year ≤ 9999) →
      DateField.year.text now =
        (if now.date.year < 0 then "-" else "+") ++ padded 4 now.date.year.natAbs ∧
      4 ≤ (padded 4 now.date.year.natAbs).length ∧
      ∀ c ∈ (padded 4 now.date.year.natAbs).toList, c.isDigit = true := by
  refine ⟨isCutInto_blocks text, isAccepted_iff text, fun h => ⟨fun now => ?_, ?_⟩,
    fun h => ⟨fun now => ?_, ?_⟩, fun now f hn hy => ?_, fun now hy => ?_⟩
  · rw [name, parts_of_isAccepted h, join_flatMap_parts]
  · exact isDated_iff_of_isAccepted h
  · rw [name, parts_of_not_isAccepted h, join_literals, String.ofList_toList]
  · rw [isDated, parts_of_not_isAccepted h]
    simp [Part.isDate]
  · exact ⟨f.length_text hn hy, DateField.isDigit_of_mem_text hy⟩
  · exact ⟨yearText_of_not_le hy, le_length_padded 4 _, fun c => isDigit_of_mem_padded⟩

/-- A quoted start, a block of six letters, which is a year and its last two digits, a quote that
stands for itself and a month; and a text that is a name as it stands, for its three letters. -/
theorem name_by_blocks_mixed :
    let text := "'logs-'yyyyyy''MM"
    let plain := "'logs-'yyy"
    let now : Instant := ⟨1709967902, 0⟩
    let late : Instant := ⟨253402300800, 0⟩
    isAccepted text = true ∧ (ofText text).name now = "logs-202424'03" ∧
      (ofText text).name late = "logs-+1000000'01" ∧ (ofText text).isDated = true ∧
      isAccepted plain = false ∧ (ofText plain).name now = plain ∧
      now.IsProper ∧ (DateField.month.text now).length = 2 ∧
      ¬(0 ≤ late.date.year ∧ late.date.year ≤ 9999) ∧ DateField.year.text late = "+10000" := by
  intro text plain now late
  obtain ⟨-, ha, hn, -, hw, hy⟩ := name_by_blocks text
  obtain ⟨-, hp, -, hv, -⟩ := name_by_blocks plain
  have hat : isAccepted text = true := ha.mpr (by decide +kernel)
  have hap : isAccepted plain = false := by
    rw [Bool.eq_false_iff, ne_eq, hp]
    decide +kernel
  have hl : ¬(0 ≤ late.date.year ∧ late.date.year ≤ 9999) := by decide +kernel
  refine ⟨hat, ((hn hat).1 now).trans (by decide +kernel),
    ((hn hat).1 late).trans (by decide +kernel), (hn hat).2.mpr (by decide +kernel), hap,
    (hv hap).1 now, by decide +kernel, (hw now .month (by decide +kernel) nofun).1, hl, ?_⟩
  exact (hy late hl).1.trans (by decide +kernel)

/-- A year that four digits cannot write. -/
theorem name_in_year_ten_thousand :
    isAccepted "yyyy" = true ∧ blocks "yyyy" = [⟨'y', 4, false⟩] ∧
      (⟨'y', 4, false⟩ : Block).fields = [.year] ∧
      (ofText "yyyy").name ⟨253402300800, 0⟩ = "+10000" ∧
      ((ofText "yyyy").name ⟨253402300800, 0⟩).length ≠ 4 := by
  have ha : isAccepted "yyyy" = true := (isAccepted_iff _).mpr (by decide +kernel)
  have hn : (ofText "yyyy").name ⟨253402300800, 0⟩ = "+10000" := by
    rw [name, parts_of_isAccepted ha, join_flatMap_parts]
    decide +kernel
  refine ⟨ha, by decide +kernel, by decide, hn, ?_⟩
  rw [hn]
  decide

end AuditTrail.IndexTemplate
