import AuditTrail.Proofs.Url.Segments
import AuditTrail.Remote.Store

/-! # URLs of documents

Documents are posted below the base URL of their store: two segments, one for the index and one
for the type, follow the path of the base, and nothing else of the base is changed.
-/

namespace AuditTrail.Remote.Store

open Url (IsName Spells withoutEmptyEnd segmentOf)

variable {text : String} {client : ClientOptions} {s : Store} {index docType : String}

theorem hasPlainPath_of_ofUrl (h : ofUrl text client = .ok s) : s.base.hasPlainPath = false := by
  unfold ofUrl at h
  split at h
  · cases h
  · split_ifs at h with hp
    cases h
    exact Bool.eq_false_iff.mpr hp

theorem isSpecial_of_web (hs : s.base.scheme = "http" ∨ s.base.scheme = "https") :
    Url.isSpecial s.base.scheme = true ∧ s.base.scheme ≠ "file" := by
  rcases hs with hs | hs <;> rw [hs] <;> decide

/-- The segments that a document has below the base. -/
def segmentsOf (s : Store) (index docType : String) : List String :=
  [segmentOf s.base.scheme index, segmentOf s.base.scheme docType]

theorem documentUrl_eq (h : ofUrl text client = .ok s)
    (hs : s.base.scheme = "http" ∨ s.base.scheme = "https")
    (hp : ∀ part ∈ s.base.path.parts.dropLast, part ≠ "") (hi : IsName index)
    (hd : IsName docType) :
    s.documentUrl index docType = { s.base with
      path := .segments (withoutEmptyEnd s.base.path.parts ++ s.segmentsOf index docType) } :=
  Url.below_pair (hasPlainPath_of_ofUrl h) (isSpecial_of_web hs).1 (isSpecial_of_web hs).2 hp hi hd

theorem forall_mem_segmentsOf (hs : s.base.scheme = "http" ∨ s.base.scheme = "https")
    (hi : IsName index) (hd : IsName docType) :
    ∀ part ∈ s.segmentsOf index docType, part ≠ "" ∧ '/' ∉ part.toList := by
  have hw := (isSpecial_of_web hs).1
  have hn : ∀ name, IsName name → segmentOf s.base.scheme name ≠ "" ∧
      '/' ∉ (segmentOf s.base.scheme name).toList := by
    intro name h
    have hm := Url.spells_segmentOf hw h
    exact ⟨hm.ne_empty h.ne_empty, fun hc => hm.uncut _ hc List.mem_cons_self⟩
  exact List.forall_mem_cons.mpr ⟨hn _ hi, List.forall_mem_singleton.mpr (hn _ hd)⟩

/-- The URL of a document is that of the base with two more segments, which stand for the index
and the type and for nothing else; they come in the place of an empty segment at the end of the
path of the base. So documents of different names have different URLs. -/
theorem documentUrl_below (h : ofUrl text client = .ok s)
    (hs : s.base.scheme = "http" ∨ s.base.scheme = "https")
    (hp : ∀ part ∈ s.base.path.parts.dropLast, part ≠ "") :
    (∀ index docType, IsName index → IsName docType → ∃ a b,
      s.documentUrl index docType =
        { s.base with path := .segments (withoutEmptyEnd s.base.path.parts ++ [a, b]) } ∧
      Spells a index ∧ Spells b docType) ∧
    ∀ index docType index' docType', IsName index → IsName docType → IsName index' →
      IsName docType' →
      (s.documentUrl index docType).text = (s.documentUrl index' docType').text →
      index = index' ∧ docType = docType' := by
  have hw := (isSpecial_of_web hs).1
  constructor
  · intro index docType hi hd
    exact ⟨_, _, documentUrl_eq h hs hp hi hd, Url.spells_segmentOf hw hi,
      Url.spells_segmentOf hw hd⟩
  · intro index docType index' docType' hi hd hi' hd' ht
    rw [documentUrl_eq h hs hp hi hd, documentUrl_eq h hs hp hi' hd'] at ht
    have hm := forall_mem_segmentsOf hs hi hd
    have hm' := forall_mem_segmentsOf hs hi' hd'
    have hb := Url.forall_mem_withoutEmptyEnd hp
    have he : s.segmentsOf index docType = s.segmentsOf index' docType' :=
      Url.eq_of_text_below_eq (List.forall_mem_append.mpr ⟨hb, fun p hp => (hm p hp).1⟩)
        (List.forall_mem_append.mpr ⟨hb, fun p hp => (hm' p hp).1⟩) (fun p hp => (hm p hp).2)
        (fun p hp => (hm' p hp).2) ht
    obtain ⟨ha, he⟩ := List.cons.inj he
    have hb := (List.cons.inj he).1
    constructor
    · apply (Url.spells_segmentOf hw hi).unique
      rw [ha]
      exact Url.spells_segmentOf hw hi'
    · apply (Url.spells_segmentOf hw hd).unique
      rw [hb]
      exact Url.spells_segmentOf hw hd'

/-- A base with all parts of a URL, and names with marks, with a code and with dots that are
coded already. The slash of one name is not that between two. -/
theorem documentUrl_below_marked_names :
    let text := " http://u:p@[::1]:8080/a%20b/?q=1#f"
    let base : Url := {
      scheme := "http"
      authority := some { username := "u", password := some "p", host := "[::1]", port := some 8080 }
      path := .segments ["a%20b", ""]
      query := some "q=1"
      fragment := some "f" }
    let client : ClientOptions := {}
    let s : Store := { base, client }
    ofUrl text client = .ok s ∧
      (∃ a b, s.documentUrl "é/\\?#%41" "%2e" =
          { base with path := .segments ["a%20b", a, b] } ∧
        Spells a "é/\\?#%41" ∧ Spells b "%2e") ∧
      (s.documentUrl "x/y" "z").text ≠ (s.documentUrl "x" "y/z").text := by
  intro text base client s
  have h : ofUrl text client = .ok s := Url.eq_ok_of_toOption (by decide +kernel)
  have hp : ∀ part ∈ s.base.path.parts.dropLast, part ≠ "" := by decide
  obtain ⟨hb, hi⟩ := documentUrl_below h (Or.inl rfl) hp
  refine ⟨h, hb _ _ (by decide +kernel) (by decide +kernel), fun ht => ?_⟩
  have he := hi _ _ _ _ (by decide +kernel) (by decide +kernel) (by decide +kernel)
    (by decide +kernel) ht
  exact absurd he.1 (by decide)

end AuditTrail.Remote.Store
