import AuditTrail.Proofs.Pattern.Glob
import AuditTrail.Proofs.Pattern.Regex.Anchors

/-! # Patterns between slashes

What lies between slashes is put between anchors as a text. If it closes no group that it has not
opened, the pattern accepts exactly the candidates that it matches from their first to their last
character; a comment at its end, or nesting that only just keeps the limit, makes the pattern match
nothing. A stray bracket lets a part of it out of the anchors, although alone it is no expression.
-/

namespace AuditTrail.Pattern

theorem accepts_slashed (body candidate : String) :
    (ofText Regex.engine ("/" ++ body ++ "/")).accepts candidate = true ↔
      ∃ r, Regex.ofText? (anchored body.toList) = some r ∧ r.Matches candidate.toList := by
  have hb : betweenSlashes? ("/" ++ body ++ "/").toList = some body.toList := by
    rw [betweenSlashes?_eq_some_iff]
    simp
  generalize "/" ++ body ++ "/" = text at hb
  cases h : Regex.ofText? (anchored body.toList) with
  | none => simp [ofText, hb, Regex.engine, h, accepts]
  | some r => simp [ofText, hb, Regex.engine, h, accepts, Regex.isMatch_iff]

/-- A text between slashes accepts a candidate if what lies between is an expression that matches
the whole of it, does not end in a comment and keeps the limit on nesting within the anchors, or if
a stray bracket makes it no expression, but one once it is put between anchors. -/
theorem accepts_slashed_iff (body candidate : String) :
    (ofText Regex.engine ("/" ++ body ++ "/")).accepts candidate = true ↔
      (∃ r, Regex.ofTextWithin? (Regex.nestingLimit - 2) body.toList = some r ∧
        ¬Regex.EndsInComment body.toList ∧ r.MatchesWhole candidate.toList) ∨
      Regex.HasStrayBracket body.toList ∧
        (∀ levels, Regex.ofTextWithin? levels body.toList = none) ∧
        ∃ r, Regex.ofText? (anchored body.toList) = some r ∧ r.Matches candidate.toList := by
  rw [accepts_slashed]
  by_cases hs : Regex.HasStrayBracket body.toList
  · have hn := Regex.ofTextWithin?_of_hasStrayBracket hs
    constructor
    · intro h
      exact Or.inr ⟨hs, hn, h⟩
    · rintro (⟨r, hr, -⟩ | ⟨-, -, h⟩)
      · rw [hn] at hr
        cases hr
      · exact h
  · have ha : Regex.ofText? (anchored body.toList) =
        Regex.ofTextWithin? (Regex.nestingLimit - 2 + 2) (anchored body.toList) := rfl
    simp only [ha, Regex.ofTextWithin?_anchored_iff hs]
    constructor
    · rintro ⟨_, ⟨hc, r, hr, rfl⟩, hm⟩
      exact Or.inl ⟨r, hr, hc, (r.matches_betweenAnchors_iff _).mp hm⟩
    · rintro (⟨r, hr, hc, hm⟩ | ⟨h, -⟩)
      · exact ⟨r.betweenAnchors, ⟨hc, r, hr, rfl⟩, (r.matches_betweenAnchors_iff _).mpr hm⟩
      · exact absurd h hs

/-- A comment at the end swallows the anchor after it. -/
example : (ofText Regex.engine "/(?x)a#/").accepts "a" = false := by decide +kernel

/-- Alone `a)|(b` is no expression, but between slashes it accepts what begins with `a`. -/
theorem stray_bracket_accepted :
    ¬((ofText Regex.engine ("/" ++ "a)|(b" ++ "/")).accepts "axe" = true ↔
      ∃ r, Regex.ofTextWithin? Regex.nestingLimit "a)|(b".toList = some r ∧
        r.MatchesWhole "axe".toList) := by
  intro h
  have ha : (ofText Regex.engine ("/" ++ "a)|(b" ++ "/")).accepts "axe" = true := by decide +kernel
  have hn : Regex.ofTextWithin? Regex.nestingLimit "a)|(b".toList = none := by decide +kernel
  obtain ⟨r, hr, -⟩ := h.mp ha
  rw [hn] at hr
  cases hr

end AuditTrail.Pattern
