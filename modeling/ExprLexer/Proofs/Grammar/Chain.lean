import ExprLexer.Grammar
import Mathlib.Tactic.Lemma

/-!
What a grammar reads off the front of a text, token after token.

A rule reads a non-empty prefix or nothing, whatever its matcher answers; so does the first rule
that applies. `Reads` follows these first matches from place to place, `Chain` states them by
position in the list of tokens, and the two agree. Every text has a chain that ends where the text
ends or where no rule applies.
-/

namespace ExprLexer

namespace Rule

/-- A rule reads `m` if its matcher answers with the byte length of this non-empty prefix. -/
lemma read?_eq_some_iff {r : Rule} {t m rest : Text} :
    r.read? t = some (m, rest) ↔
      m ≠ [] ∧ m ++ rest = t ∧ r.matcher.length? t = some (Text.byteLength m) := by
  constructor
  · intro h
    refine ⟨ne_nil_of_read? h, append_of_read? h, ?_⟩
    unfold read? at h
    split at h
    · simp at h
    · simp at h
    · rename_i n hn
      rw [hn, Text.byteLength_of_splitAtByte? h]
  · rintro ⟨hm, rfl, hlen⟩
    obtain ⟨n, hn⟩ : ∃ n, Text.byteLength m = n + 1 :=
      Nat.exists_eq_add_one.mpr (Text.byteLength_pos hm)
    have hcut := Text.splitAtByte?_append m rest
    rw [hn] at hlen hcut
    unfold read?
    rw [hlen]
    exact hcut

end Rule

namespace Token

/-- The values of the tokens, put together. -/
def concat (ts : List Token) : Text := ts.flatMap Token.value

@[simp] lemma concat_nil : concat [] = [] := rfl
@[simp] lemma concat_cons (t : Token) (ts : List Token) :
    concat (t :: ts) = t.value ++ concat ts := rfl
lemma flatten_map_value (ts : List Token) : (ts.map Token.value).flatten = concat ts :=
  (List.flatMap_def ..).symm

end Token

namespace Grammar

variable {g : Grammar}

/-- The first match is that of the first rule in order that reads something. -/
lemma first?_eq_findSome? (g : Grammar) (t : Text) :
    g.first? t = g.rules.findSome? fun r =>
      (r.read? t).map fun (m, rest) => (⟨r.kind, m⟩, rest) := by
  unfold first?
  induction g.rules with
  | nil => rfl
  | cons r rs ih =>
    unfold tryRules
    rcases hr : r.read? t with _ | ⟨m, rest⟩
    · simpa [hr] using ih
    · simp [hr]

lemma first?_spec {t rest : Text} {tok : Token} (h : g.first? t = some (tok, rest)) :
    tok.value ≠ [] ∧ tok.value ++ rest = t := by
  rw [first?_eq_findSome?] at h
  obtain ⟨r, -, hr⟩ := List.exists_of_findSome?_eq_some h
  obtain ⟨⟨m, rest'⟩, hread, he⟩ := Option.map_eq_some_iff.mp hr
  cases he
  exact ⟨Rule.ne_nil_of_read? hread, Rule.append_of_read? hread⟩

lemma first?_subset {t rest : Text} {tok : Token} (h : g.first? t = some (tok, rest)) :
    rest ⊆ t :=
  (first?_spec h).2 ▸ List.subset_append_right tok.value rest

lemma first?_nil (g : Grammar) : g.first? [] = none := by
  rcases h : g.first? [] with _ | ⟨tok, rest⟩
  · rfl
  · obtain ⟨hne, happ⟩ := first?_spec h
    exact absurd (List.append_eq_nil_iff.mp happ).1 hne

/-! ### From place to place -/

/-- The grammar reads the tokens one after the other off the front of a text; the last text is
what they leave. -/
inductive Reads (g : Grammar) : Text → List Token → Text → Prop
  | stop (s : Text) : Reads g s [] s
  | next {s rest u : Text} {tok : Token} {ts : List Token}
      (first : g.first? s = some (tok, rest)) (reads : Reads g rest ts u) : Reads g s (tok :: ts) u

namespace Reads

variable {s u : Text} {ts : List Token}

lemma concat_append (h : g.Reads s ts u) : Token.concat ts ++ u = s := by
  induction h with
  | stop => rfl
  | next first _ ih => rw [Token.concat_cons, List.append_assoc, ih, (first?_spec first).2]

/-- What a chain leaves is part of its text. -/
lemma subset (h : g.Reads s ts u) : u ⊆ s :=
  h.concat_append ▸ List.subset_append_right (Token.concat ts) u

lemma value_ne_nil (h : g.Reads s ts u) : ∀ t ∈ ts, t.value ≠ [] := by
  induction h with
  | stop => simp
  | next first _ ih =>
    intro t ht
    rcases List.mem_cons.mp ht with rfl | ht
    · exact (first?_spec first).1
    · exact ih t ht

lemma append {v : Text} {us : List Token} (h : g.Reads s ts u) (h' : g.Reads u us v) :
    g.Reads s (ts ++ us) v := by
  induction h with
  | stop => exact h'
  | next first _ ih => exact .next first (ih h')

/-- The first tokens of a chain are a chain. -/
lemma take (h : g.Reads s ts u) (k : Nat) : ∃ v, g.Reads s (ts.take k) v := by
  induction h generalizing k with
  | stop s =>
    rw [List.take_nil]
    exact ⟨s, .stop s⟩
  | next first _ ih =>
    cases k with
    | zero => exact ⟨_, .stop _⟩
    | succ k =>
      obtain ⟨v, hv⟩ := ih k
      exact ⟨v, .next first hv⟩

/-- Every token takes a character at least, so a chain is no longer than its text. -/
lemma length_add_le (h : g.Reads s ts u) : ts.length + u.length ≤ s.length := by
  induction h with
  | stop => simp
  | next first _ ih =>
    have hlt := length_lt_of_first? first
    rw [List.length_cons]
    omega

end Reads

/-- **Progress**: from every text a chain leads to a place where no rule applies. -/
lemma exists_reads (g : Grammar) (s : Text) :
    ∃ ts u, g.Reads s ts u ∧ g.first? u = none := by
  induction hn : s.length using Nat.strongRecOn generalizing s with
  | _ n ih =>
    rcases h : g.first? s with _ | ⟨tok, rest⟩
    · exact ⟨[], s, .stop s, h⟩
    · obtain ⟨ts, u, hr, hu⟩ := ih rest.length (hn ▸ length_lt_of_first? h) rest rfl
      exact ⟨tok :: ts, u, .next h hr, hu⟩

/-! ### By position -/

/-- Each token is the first match of all that the tokens before it leave of `s`. -/
def Chain (g : Grammar) (s : Text) (ts : List Token) : Prop :=
  ∀ i (h : i < ts.length),
    (g.first? (s.drop (Token.concat (ts.take i)).length)).map Prod.fst = some ts[i]

lemma chain_nil (s : Text) : g.Chain s [] := fun _ h => absurd h (Nat.not_lt_zero _)

lemma chain_cons_iff {s : Text} {tok : Token} {ts : List Token} :
    g.Chain s (tok :: ts) ↔ ∃ rest, g.first? s = some (tok, rest) ∧ g.Chain rest ts := by
  have hdrop {rest : Text} (h : g.first? s = some (tok, rest)) (i : Nat) :
      s.drop (Token.concat ((tok :: ts).take (i + 1))).length =
        rest.drop (Token.concat (ts.take i)).length := by
    calc s.drop (Token.concat ((tok :: ts).take (i + 1))).length
        = (tok.value ++ rest).drop (tok.value.length + (Token.concat (ts.take i)).length) := by
          rw [(first?_spec h).2, List.take_succ_cons, Token.concat_cons, List.length_append]
      _ = rest.drop (Token.concat (ts.take i)).length := by rw [List.drop_length_add_append]
  constructor
  · intro h
    have h0 := h 0 (by simp)
    simp only [List.take_zero, Token.concat_nil, List.length_nil, List.drop_zero,
      List.getElem_cons_zero, Option.map_eq_some_iff] at h0
    obtain ⟨⟨tok', rest⟩, h0, rfl⟩ := h0
    refine ⟨rest, h0, fun i hi => ?_⟩
    have hi' := h (i + 1) (by simpa using hi)
    rwa [hdrop h0] at hi'
  · rintro ⟨rest, h0, hc⟩ i hi
    cases i with
    | zero => simp [h0]
    | succ i =>
      rw [hdrop h0]
      exact hc i (by simpa using hi)

/-- The two ways to state a chain agree. -/
lemma reads_iff {s u : Text} {ts : List Token} :
    g.Reads s ts u ↔ g.Chain s ts ∧ Token.concat ts ++ u = s := by
  constructor
  · intro h
    refine ⟨?_, h.concat_append⟩
    induction h with
    | stop s => exact chain_nil s
    | next first _ ih => exact chain_cons_iff.mpr ⟨_, first, ih⟩
  · rintro ⟨hc, hs⟩
    induction ts generalizing s with
    | nil =>
      subst hs
      exact .stop u
    | cons tok ts ih =>
      obtain ⟨rest, first, hc⟩ := chain_cons_iff.mp hc
      have hrest : tok.value ++ (Token.concat ts ++ u) = tok.value ++ rest := by
        calc tok.value ++ (Token.concat ts ++ u)
            = Token.concat (tok :: ts) ++ u := by rw [Token.concat_cons, List.append_assoc]
          _ = s := hs
          _ = tok.value ++ rest := (first?_spec first).2.symm
      exact .next first (ih hc (List.append_cancel_left hrest))

end Grammar

end ExprLexer
