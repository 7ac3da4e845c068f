import ExprLexer.Proofs.Grammar.Chain
import ExprLexer.Proofs.Text.Boundary

/-!
What becomes of a matcher's answer.

A matcher may answer any number of bytes at all. The rule holds the number against the text: it
counts if it is positive and the text can be cut there, and what the rule reads is then the one
prefix with so many bytes. So the text can also be cut behind what was read, and the rest is
shorter, which is all that a run needs in order to go on.
-/

namespace ExprLexer.Rule

variable {r : Rule} {t m : Text}

lemma map_fst_read?_eq_some_iff :
    (r.read? t).map Prod.fst = some m ↔
      ∃ n, r.matcher.length? t = some n ∧ 0 < n ∧ m <+: t ∧ m.utf8Encode.size = n := by
  rw [Option.map_eq_some_iff]
  constructor
  · rintro ⟨⟨m, rest⟩, hread, rfl⟩
    obtain ⟨hm, happ, hlen⟩ := read?_eq_some_iff.mp hread
    exact ⟨_, hlen, Text.byteLength_pos hm, ⟨rest, happ⟩, Text.size_utf8Encode m⟩
  · rintro ⟨n, hlen, hpos, ⟨rest, happ⟩, hsize⟩
    rw [Text.size_utf8Encode] at hsize
    have hm : m ≠ [] := by
      rintro rfl
      rw [Text.byteLength_nil] at hsize
      omega
    exact ⟨(m, rest), read?_eq_some_iff.mpr ⟨hm, happ, hsize ▸ hlen⟩, rfl⟩

/-- A rule reads nothing if there is no answer, or none that the text can be cut at. -/
lemma read?_eq_none_iff :
    r.read? t = none ↔ r.matcher.length? t = none ∨
      ∃ n, r.matcher.length? t = some n ∧ (n = 0 ∨ Text.splitAtByte? n t = none) := by
  unfold read?
  rcases r.matcher.length? t with _ | _ | n
  · simp
  · simp
  · simp

/-- **A rule holds its matcher to the bytes of the text.** Whatever number of bytes the matcher
answers, the rule reads the prefix with exactly so many, if the number is positive and there is
one, and there is one at most. It reads nothing in all other cases: there is no answer, or it is
zero, or more than the text has, or ends inside a character. Behind what was read the text can be
cut, in characters and in bytes, and the rest is shorter than the text. -/
theorem read?_byte_exact (r : Rule) (t : Text) :
    (∀ m, (r.read? t).map Prod.fst = some m ↔
      ∃ n, r.matcher.length? t = some n ∧ 0 < n ∧ m <+: t ∧ m.utf8Encode.size = n) ∧
    (r.read? t = none ↔ r.matcher.length? t = none ∨
      ∃ n, r.matcher.length? t = some n ∧ (n = 0 ∨ t.utf8Encode.size < n ∨ t.EndsInside n)) ∧
    (∀ m m', m <+: t → m' <+: t → m.utf8Encode.size = m'.utf8Encode.size → m = m') ∧
    ∀ m rest, r.read? t = some (m, rest) →
      Text.splitAtByte? m.utf8Encode.size t = some (m, rest) ∧ m ++ rest = t ∧
      t.utf8Encode.extract 0 m.utf8Encode.size = m.utf8Encode ∧
      t.utf8Encode.extract m.utf8Encode.size t.utf8Encode.size = rest.utf8Encode ∧
      rest.length < t.length ∧ rest.utf8Encode.size < t.utf8Encode.size := by
  refine ⟨fun m => map_fst_read?_eq_some_iff, ?_, ?_, ?_⟩
  · simp only [read?_eq_none_iff, Text.splitAtByte?_eq_none_iff, Text.size_utf8Encode]
  · rintro m m' ⟨rest, happ⟩ ⟨rest', happ'⟩ hsize
    rw [Text.size_utf8Encode, Text.size_utf8Encode] at hsize
    exact (Text.append_inj_of_byteLength (happ.trans happ'.symm) hsize).1
  · intro m rest hread
    have happ : m ++ rest = t := append_of_read? hread
    have hpos : 0 < Text.byteLength m := Text.byteLength_pos (ne_nil_of_read? hread)
    have hbytes : Text.byteLength t = Text.byteLength m + Text.byteLength rest := by
      rw [← happ, Text.byteLength_append]
    refine ⟨?_, happ, Text.extract_utf8Encode_left happ, Text.extract_utf8Encode_right happ,
      length_lt_of_read? hread, ?_⟩
    · rw [Text.size_utf8Encode]
      exact Text.splitAtByte?_eq_some_iff.mpr ⟨happ, rfl⟩
    · rw [Text.size_utf8Encode, Text.size_utf8Encode]
      omega

/-- A character of two bytes and one of four: three bytes end inside the second, the greatest
machine word is past the end, and two bytes are the first. -/
theorem read?_byte_exact_wide :
    read? ⟨.number, .fixed 3⟩ "é𝒫".toList = none ∧
    read? ⟨.number, .fixed 0xFFFFFFFFFFFFFFFF⟩ "é𝒫".toList = none ∧
    read? ⟨.number, .fixed 2⟩ "é𝒫".toList = some ("é".toList, "𝒫".toList) ∧
    Text.splitAtByte? "é".toList.utf8Encode.size "é𝒫".toList = some ("é".toList, "𝒫".toList) := by
  have hread : read? ⟨.number, .fixed 2⟩ "é𝒫".toList = some ("é".toList, "𝒫".toList) := rfl
  have hinside : Text.EndsInside "é𝒫".toList 3 :=
    ⟨['é'], '𝒫', [], by decide, by decide, by decide⟩
  have hpast : "é𝒫".toList.utf8Encode.size < 0xFFFFFFFFFFFFFFFF := by decide
  refine ⟨?_, ?_, hread, ?_⟩
  · exact (read?_byte_exact _ _).2.1.mpr (.inr ⟨3, rfl, .inr (.inr hinside)⟩)
  · exact (read?_byte_exact _ _).2.1.mpr (.inr ⟨_, rfl, .inr (.inl hpast)⟩)
  · exact ((read?_byte_exact _ _).2.2.2 _ _ hread).1

end ExprLexer.Rule
