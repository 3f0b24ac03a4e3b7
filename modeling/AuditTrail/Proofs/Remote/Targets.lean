import AuditTrail.Proofs.Record.WellFormed
import AuditTrail.Proofs.Url.Changes
import AuditTrail.Remote.Webhook

/-! # Endpoints with parameters

The parameters of a record are put behind the query of the endpoint. Both are coded text, so that
neither is coded again, and the form that they make up is read as one after the other.
-/

namespace AuditTrail.Remote

open Url (Form.decode Form.encode)

/-! ## Parameters in queries -/

theorem codedInQuery_of_isQueryChar {special : Bool} {c : Char} (h : isQueryChar c = true) :
    Url.codedInQuery special c = false := by
  rcases Bool.or_eq_true _ _ ▸ h with h | h
  · exact Url.codedInQuery_of_isAlphanum h
  · simp only [List.contains_iff_mem, List.mem_cons, List.not_mem_nil, or_false] at h
    rcases h with rfl | rfl | rfl | rfl | rfl | rfl | rfl | rfl <;> cases special <;> rfl

theorem parameters_ne_nil (r : Record) : parameters r ≠ [] := by
  have hc : (Field.category, r.category.name) ∈ r.shown := by
    apply List.mem_filter.mpr
    constructor
    · exact List.mem_map.mpr ⟨(.category, .string r.category.name), List.mem_cons_self, rfl⟩
    · simp [Category.name_ne_empty]
  exact List.ne_nil_of_mem (List.mem_map_of_mem hc)

namespace Webhook

variable {text : String} {f : Format} {w : Webhook}

theorem ofText_of_ofUrl (h : ofUrl text f = .ok w) : Url.ofText (Text.trim text) = .ok w.url := by
  unfold ofUrl at h
  extract_lets trimmed at h
  split_ifs at h
  split at h
  · next hu =>
    cases h
    exact hu
  · cases h

/-! ## Targets -/

/-- What stands before the parameters in the query of a target: the query of the endpoint and a
separator, unless the endpoint has no query or an empty one. -/
def ownQuery (w : Webhook) : String :=
  (w.url.query.filter fun q => !q.isEmpty).elim "" (· ++ "&")

theorem ownQuery_cases (w : Webhook) :
    w.ownQuery = "" ∧ w.url.query.getD "" = "" ∨
      ∃ own, w.url.query = some own ∧ w.ownQuery = own ++ "&" := by
  unfold ownQuery
  cases hq : w.url.query with
  | none => exact Or.inl ⟨rfl, rfl⟩
  | some own =>
    by_cases he : own = ""
    · exact Or.inl (by simp [he, Option.filter_some])
    · exact Or.inr ⟨own, rfl, by simp [he, Option.filter_some]⟩

theorem target_eq {query : String} (h : query ≠ "") :
    w.target (some query) = w.url.withQuery (w.ownQuery ++ query) := by
  have hq : (some query).filter (fun q => !q.isEmpty) = some query := by simp [h]
  rw [target, hq, ownQuery]
  cases w.url.query.filter fun q => !q.isEmpty with
  | none => simp
  | some own => rfl

theorem uncoded_of_mem_ownQuery (h : ofUrl text f = .ok w) :
    ∀ c ∈ w.ownQuery.toList, Url.codedInQuery (Url.isSpecial w.url.scheme) c = false := by
  intro c hc
  obtain ⟨he, -⟩ | ⟨own, hq, ho⟩ := w.ownQuery_cases
  · simp [he] at hc
  · rw [ho, String.toList_append, List.mem_append] at hc
    rcases hc with hc | hc
    · exact Url.uncoded_of_mem_query (ofText_of_ofUrl h) hq c hc
    · obtain rfl : c = '&' := by simpa using hc
      exact codedInQuery_of_isQueryChar rfl

theorem decode_ownQuery (query : String) :
    Form.decode (w.ownQuery ++ query) =
      Form.decode (w.url.query.getD "") ++ Form.decode query := by
  obtain ⟨he, hn⟩ | ⟨own, hq, ho⟩ := w.ownQuery_cases
  · rw [he, hn, String.empty_append]
    rfl
  · rw [ho, hq, Url.Form.decode_join, Option.getD_some]

/-- A record that is sent as parameters goes to the endpoint with another query, and nothing else
of the endpoint is changed. This query is that of the endpoint and the parameters, each as it is
written; read as a form, it is the form of the endpoint and the record's entries with text to
show, each under its name on the wire and in their order. -/
theorem target_of_parameters (h : ofUrl text f = .ok w)
    (hf : f = .urlParameterGet ∨ f = .urlParameterPost) (r : Record) :
    ∃ query, w.target (f.payload r).query = { w.url with query := some query } ∧
      query = w.ownQuery ++ Form.encode (parameters r) ∧
      Form.decode query = Form.decode (w.url.query.getD "") ++
        (r.strings.filter fun e => !e.2.isEmpty).map fun e => (e.1.key, e.2) := by
  have hp : (f.payload r).query = some (Form.encode (parameters r)) := by
    rcases hf with rfl | rfl <;> rfl
  have hc : ∀ c ∈ (w.ownQuery ++ Form.encode (parameters r)).toList,
      Url.codedInQuery (Url.isSpecial w.url.scheme) c = false := by
    intro c hc
    rw [String.toList_append, List.mem_append] at hc
    rcases hc with hc | hc
    · exact uncoded_of_mem_ownQuery h c hc
    · exact codedInQuery_of_isQueryChar (isQueryChar_of_mem_encode hc)
  refine ⟨_, ?target, rfl, ?form⟩
  case target =>
    rw [hp, target_eq (Url.Form.encode_ne_empty (parameters_ne_nil r)),
      Url.withQuery_of_forall hc]
  case form =>
    rw [decode_ownQuery, Url.Form.decode_encode, parameters, Record.shown]

/-- An endpoint with all parts of a URL, whose query has codes, a name alone and a separator at
its end, and a user whose name has characters that separate, code or end a query. -/
theorem target_of_parameters_beside_form :
    let text := "https://u:p@[::1]:8443/in/?to=%C3%A9%26&flag&#f"
    let url : Url := {
      scheme := "https"
      authority := some { username := "u", password := some "p", host := "[::1]", port := some 8443 }
      path := .segments ["in", ""]
      query := some "to=%C3%A9%26&flag&"
      fragment := some "f" }
    let w : Webhook := { url, format := .urlParameterGet }
    let r : Record := { category := .failedLogin, created := { seconds := 0 } }
    let r := r.text .effectiveUser (some "J&M #1+100%")
    ofUrl text .urlParameterGet = .ok w ∧
      ∃ query, w.target (Format.urlParameterGet.payload r).query =
          { url with query := some query } ∧
        Form.decode query = [("to", "é&"), ("flag", ""), ("audit_category", "FAILED_LOGIN"),
          ("audit_utc_timestamp", "1970-01-01T00:00:00.000Z"),
          ("audit_request_effective_user", "J&M #1+100%")] := by
  intro text url w r₀ r
  have h : ofUrl text .urlParameterGet = .ok w := Url.eq_ok_of_toOption (by decide +kernel)
  obtain ⟨query, ht, -, hd⟩ := target_of_parameters h (Or.inl rfl) r
  have ho : Form.decode "to=%C3%A9%26&flag&" = [("to", "é&"), ("flag", "")] := by decide +kernel
  have hp : parameters r = [("audit_category", "FAILED_LOGIN"),
      ("audit_utc_timestamp", "1970-01-01T00:00:00.000Z"),
      ("audit_request_effective_user", "J&M #1+100%")] := by decide +kernel
  refine ⟨h, query, ht, hd.trans ?_⟩
  change Form.decode "to=%C3%A9%26&flag&" ++ parameters r = _
  rw [ho, hp]
  rfl

end Webhook

end AuditTrail.Remote
