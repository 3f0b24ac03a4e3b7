import AuditTrail.Proofs.Url.FormCoding
import AuditTrail.Remote.Format

/-! # Records as parameters

A record that is written as parameters of a URL is read as its entries that have text to show.
-/

namespace AuditTrail.Remote

open Url (Form.decode Form.encode)

/-- What a query with parameters may hold: ASCII letters and digits, and these marks. -/
def isQueryChar (c : Char) : Bool :=
  c.isAlphanum || ['*', '-', '.', '_', '+', '%', '&', '='].contains c

theorem isQueryChar_of_mem_encode {pairs : List (String × String)} {c : Char}
    (h : c ∈ (Form.encode pairs).toList) : isQueryChar c = true := by
  rcases Url.Form.mem_encode h with h | rfl | rfl
  · simp only [Url.Form.isWritten, Url.Form.isPlain, Bool.or_eq_true, beq_iff_eq] at h
    rcases h with (((((h | rfl) | rfl) | rfl) | rfl) | rfl) | rfl
    · rw [isQueryChar, h, Bool.true_or]
    all_goals decide
  · decide
  · decide

/-- Both formats with parameters write the record as one query and nothing else; read as a form,
the query is the list of the record's entries with text to show, each under its name on the wire
and in their order. -/
theorem decode_parameters (r : Record) :
    ∃ query, Format.urlParameterGet.payload r = { query := some query, body := none } ∧
      Format.urlParameterPost.payload r = { query := some query, body := none } ∧
      Form.decode query =
        (r.strings.filter fun e => !e.2.isEmpty).map (fun e => (e.1.key, e.2)) ∧
      ∀ c ∈ query.toList, isQueryChar c = true := by
  refine ⟨Form.encode (parameters r), rfl, rfl, ?_, fun c hc => isQueryChar_of_mem_encode hc⟩
  rw [Url.Form.decode_encode, parameters, Record.shown]

end AuditTrail.Remote
