import ExprLexer.Proofs.Json.Compact
import ExprLexer.Proofs.Text.Quoted
import ExprLexer.Report

/-!
A report as a JSON text, and back.

The text of a report is a document of one value only, an object that has the members of the report
in order; and the report can be read off that value. What was read and what was not have members of
different names. An error is told by its message alone, but the message has the position in decimal
digits up to a colon and the character in a fixed place behind it, so it tells both.
-/

namespace ExprLexer

lemma Text.colon_not_mem_ofNat (n : Nat) : ':' ∉ ofNat n := fun hmem => by
  have hdigit := Nat.isDigit_of_mem_toDigits (by decide) (by decide) hmem
  revert hdigit
  decide

/-- The message tells the position and the character, whatever the character is. -/
lemma Unmatched.message_injective {e e' : Unmatched} (h : e.message = e'.message) : e = e' := by
  obtain ⟨c, p⟩ := e
  obtain ⟨c', p'⟩ := e'
  have hcolon : ": \"".toList = ':' :: " \"".toList := by simp
  unfold message at h
  rw [List.append_assoc, List.append_assoc, List.append_assoc, List.append_assoc, hcolon] at h
  obtain ⟨hposition, hcharacter⟩ := Text.eq_of_append_cons_eq (Text.colon_not_mem_ofNat p)
    (Text.colon_not_mem_ofNat p') (List.append_cancel_left h)
  obtain rfl : p = p' := Text.ofNat_injective hposition
  obtain rfl : c = c' := List.head_eq_of_cons_eq (List.append_cancel_left hcharacter)
  rfl

lemma Token.json_injective {t t' : Token} (h : t.json = t'.json) : t = t' := by
  simp only [json, Json.object.injEq, List.cons.injEq, Prod.mk.injEq, Json.text.injEq, true_and,
    and_true] at h
  exact Token.ext (Kind.name_injective h.2) h.1

namespace Report

lemma readingJson_injective {x y : Except Unmatched (List Token)}
    (h : readingJson x = readingJson y) : x = y := by
  cases x <;> cases y <;>
    simp only [readingJson, Json.object.injEq, List.cons.injEq, Prod.mk.injEq, Json.text.injEq,
      Json.list.injEq, reduceCtorEq, true_and, and_true, and_false] at h
  case error.error e e' => rw [Unmatched.message_injective h]
  case ok.ok ts us =>
    have hinj : Function.Injective Token.json := fun _ _ => Token.json_injective
    rw [hinj.list_map h]

lemma json_injective {r r' : Report} (h : r.json = r'.json) : r = r' := by
  obtain ⟨expression, pieces, reading, agrees⟩ := r
  obtain ⟨expression', pieces', reading', agrees'⟩ := r'
  simp only [json, Json.object.injEq, List.cons.injEq, Prod.mk.injEq, Json.text.injEq,
    Json.list.injEq, Json.bool.injEq, true_and, and_true] at h
  obtain ⟨rfl, hpieces, hreading, rfl⟩ := h
  have hinj : Function.Injective Json.text := fun _ _ => Json.text.inj
  rw [hinj.list_map hpieces, readingJson_injective hreading]

/-- **The text of a report is faithful and loses nothing**: it is a document of exactly one value,
the object with the expression, its pieces, its tokens or the message of the error, and the
agreement; and reports with the same text are the same, whatever they hold. -/
theorem compact_json_faithful (r : Report) :
    (∀ x, Json.IsDocument x r.json.compact ↔
      x = .object
        [("expression".toList, .text r.expression),
         ("quick".toList, .list (r.pieces.map .text)),
         ("rule".toList,
          match r.reading with
          | .ok ts =>
            .object
              [("tokens".toList,
                .list (ts.map fun t =>
                  .object [("value".toList, .text t.value), ("type".toList, .text t.kind.name)]))]
          | .error e => .object [("error".toList, .text e.message)]),
         ("matches".toList, .bool r.agrees)]) ∧
    ∀ r' : Report, r'.json.compact = r.json.compact ↔ r' = r := by
  have hiff (r : Report) (x : Json) : Json.IsDocument x r.json.compact ↔ x = r.json :=
    ⟨fun hx => hx.unique (Json.isDocument_compact r.json),
      fun hx => hx ▸ Json.isDocument_compact r.json⟩
  constructor
  · obtain ⟨expression, pieces, reading, agrees⟩ := r
    cases reading with
    | ok ts => exact hiff _
    | error e => exact hiff _
  · intro r'
    refine ⟨fun h => json_injective ?_, fun h => h ▸ rfl⟩
    rw [← hiff, ← h, hiff]

end Report

end ExprLexer
