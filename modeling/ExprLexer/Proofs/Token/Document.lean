import ExprLexer.Proofs.Json.Compact
import ExprLexer.Proofs.Json.Records
import ExprLexer.TokenJson

/-!
Reading tokens back.

A token that is being read is told by the members that have been read. So a token is read from the
two members it is written as, in either order and among any others.
-/

namespace ExprLexer

lemma Kind.name?_name (k : Kind) : Json.name? byName (.text k.name) = some k := by
  cases k <;> decide

namespace Token

/-- The members that are read so far. -/
def Partial.members (p : Partial) : List (Text × Json) :=
  (p.value.map fun v => ("value".toList, Json.text v)).toList ++
    (p.kind.map fun k => ("type".toList, Json.text k.name)).toList

def decoder : shape.Decoder where
  field name p x :=
    if name = "value".toList then x.text?.map fun v => { p with value := some v }
    else (Json.variant? Kind.byName x).map fun k => { p with kind := some k }
  decodes := by
    intro f hf p
    rcases List.mem_pair.mp hf with rfl | rfl
    · exact (Json.decodes_readText _).map _
    · exact (Json.decodes_readVariant _).map _
  isSet_field := by
    intro f hf g hg p q x h
    rcases List.mem_pair.mp hf with rfl | rfl <;> rcases List.mem_pair.mp hg with rfl | rfl
    all_goals
      obtain ⟨_, -, rfl⟩ := Option.map_eq_some_iff.mp h
      simp

lemma decoder_tells : decoder.Tells Partial.members where
  start p h := by
    obtain ⟨_ | v, _ | k⟩ := p
    · rfl
    all_goals simp [Partial.members] at h
  last p m hm := by
    obtain ⟨v?, k?⟩ := p
    simp only [Partial.members, List.mem_append, Option.mem_toList, Option.map_eq_some_iff] at hm
    obtain ⟨v, rfl, rfl⟩ | ⟨k, rfl, rfl⟩ := hm
    · exact ⟨⟨none, k?⟩, .refl _, rfl⟩
    · have hread : decoder.member ⟨v?, none⟩ ("type".toList, .text k.name) =
          (Json.variant? Kind.byName (.text k.name)).map fun k => ⟨v?, some k⟩ := rfl
      have hkind : Json.variant? Kind.byName (.text k.name) = some k := k.name?_name
      refine ⟨⟨v?, none⟩, by simp [Partial.members], ?_⟩
      rw [hread, hkind]
      rfl

/-- Any document with the two members is read as the token. -/
lemma ofJsonText_of_perm {t : Token} {ms others : List (Text × Json)} {input : Text}
    (hothers : ∀ m ∈ others, m.1 ≠ "value".toList ∧ m.1 ≠ "type".toList)
    (hms : ms.Perm
      (("value".toList, .text t.value) :: ("type".toList, .text t.kind.name) :: others))
    (hinput : Json.IsDocument (.object ms) input) : ofJsonText input = .ok t := by
  have hnames : ∀ m ∈ others, m.1 ∉ shape.fields.map Json.Field.name := fun m hm => by
    simpa [shape] using hothers m hm
  have hread := decoder_tells.foldlM_eq (a := ⟨some t.value, some t.kind⟩) hnames hms
  refine Json.readDocument_eq_ok decoder.decodes_read false hinput ?_
  rw [Json.Shape.Decoder.value, hread]
  rfl

/-- **A token is read back** from the text it is written as, and from any object with its two
members, in whatever order and among whatever others. -/
theorem ofJsonText_compact :
    (∀ t : Token, ofJsonText t.json.compact = .ok t) ∧
    ∀ (t : Token) (ms others : List (Text × Json)),
      (∀ m ∈ others, m.1 ≠ "value".toList ∧ m.1 ≠ "type".toList) →
      ms.Perm (("value".toList, .text t.value) :: ("type".toList, .text t.kind.name) :: others) →
      ofJsonText (Json.object ms).compact = .ok t := by
  constructor
  · intro t
    exact ofJsonText_of_perm (by simp) (.refl _) (Json.isDocument_compact t.json)
  · intro t ms others hothers hms
    exact ofJsonText_of_perm hothers hms (Json.isDocument_compact (.object ms))

theorem ofJsonText_compact_reversed :
    ofJsonText "\x7b\"type\":\"number\",\"note\":\"\",\"value\":\"\\\"\\\\\\u0000😀\"\x7d".toList =
      .ok ⟨.number, "\"\\\x00😀".toList⟩ := by
  have hothers : ∀ m ∈ [("note".toList, Json.text [])],
      m.1 ≠ "value".toList ∧ m.1 ≠ "type".toList := by simp
  exact ofJsonText_compact.2 ⟨.number, "\"\\\x00😀".toList⟩
    [("type".toList, .text "number".toList), ("note".toList, .text []),
      ("value".toList, .text "\"\\\x00😀".toList)] _ hothers
    (List.perm_append_singleton _ [_, _])

end Token

end ExprLexer
