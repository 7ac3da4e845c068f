import ExprLexer.Proofs.Json.Compact
import ExprLexer.Proofs.Json.Records
import ExprLexer.Settings

/-!
Reading settings back.

Each of the three members is read on its own, or left out. So settings are read from those members
that are given, in any order and among any others; what is not given is as it is by default. A
member that is given twice is an error, whatever the values are.
-/

namespace ExprLexer

namespace Settings

/-- The names of the members that count. -/
def names : List Text := ["expressions".toList, "error_demo".toList, "json".toList]

/-- The members that are read so far. -/
def Partial.members (p : Partial) : List (Text × Json) :=
  (p.expressions.map fun ts => ("expressions".toList, Json.list (ts.map .text))).toList ++
    ((p.faulty.map fun t => ("error_demo".toList, Json.text t)).toList ++
      (p.json.map fun b => ("json".toList, Json.bool b)).toList)

def decoder : shape.Decoder where
  field name p x :=
    if name = "expressions".toList then x.texts?.map fun ts => { p with expressions := some ts }
    else if name = "error_demo".toList then x.text?.map fun t => { p with faulty := some t }
    else x.bool?.map fun b => { p with json := some b }
  decodes := by
    intro f hf p
    simp only [shape, List.mem_cons, List.not_mem_nil, or_false] at hf
    rcases hf with rfl | rfl | rfl
    · exact Json.decodes_readTexts.map _
    · exact (Json.decodes_readText _).map _
    · exact Json.decodes_readBool.map _
  isSet_field := by
    intro f hf g hg p q x h
    simp only [shape, List.mem_cons, List.not_mem_nil, or_false] at hf hg
    rcases hf with rfl | rfl | rfl <;> rcases hg with rfl | rfl | rfl
    all_goals
      obtain ⟨_, -, rfl⟩ := Option.map_eq_some_iff.mp h
      simp

lemma decoder_tells : decoder.Tells Partial.members where
  start p h := by
    obtain ⟨_ | ts, _ | t, _ | b⟩ := p
    · rfl
    all_goals simp [Partial.members] at h
  last p m hm := by
    obtain ⟨ts?, t?, b?⟩ := p
    simp only [Partial.members, List.mem_append, Option.mem_toList, Option.map_eq_some_iff] at hm
    obtain ⟨ts, rfl, rfl⟩ | ⟨t, rfl, rfl⟩ | ⟨b, rfl, rfl⟩ := hm
    · have hread : decoder.member ⟨none, t?, b?⟩ ("expressions".toList, .list (ts.map .text)) =
          (Json.texts? (.list (ts.map .text))).map fun ts => ⟨some ts, t?, b?⟩ := rfl
      refine ⟨⟨none, t?, b?⟩, .refl _, ?_⟩
      rw [hread, Json.texts?_map_text]
      rfl
    · exact ⟨⟨ts?, none, b?⟩, List.perm_middle, rfl⟩
    · exact ⟨⟨ts?, t?, none⟩, by simp [Partial.members, ← List.append_assoc], rfl⟩

section Documents

variable {ms others : List (Text × Json)} {input : Text}

/-- Any document with the given members is read as the settings with their values. -/
lemma ofText_of_perm {p : Partial} (hothers : ∀ m ∈ others, m.1 ∉ names)
    (hms : ms.Perm (p.members ++ others)) (hinput : Json.IsDocument (.object ms) input) :
    ofText input = .ok ⟨p.expressions.getD default.expressions, p.faulty.getD default.faulty,
      p.json.getD default.json⟩ := by
  have hvalue : decoder.value (.object ms) = some p.complete := by
    rw [Json.Shape.Decoder.value, decoder_tells.foldlM_eq hothers hms]
    rfl
  have hread := Json.readDocument_eq_ok decoder.decodes_read false hinput hvalue
  rw [ofText, hread]
  rfl

lemma ofText_of_repeated {key : Text} (hkey : key ∈ names)
    (hcount : 2 ≤ (ms.map Prod.fst).count key) (hinput : Json.IsDocument (.object ms) input) :
    ∃ e : Json.ReadError,
      ofText input = .error (.config ("Failed to parse config: ".toList ++ e.message)) := by
  have hvalue := decoder.value_object_of_repeated hkey hcount
  obtain ⟨e, he⟩ := Json.readDocument_eq_error decoder.decodes_read false hinput hvalue
  exact ⟨e, by rw [ofText, he]⟩

end Documents

/-- **Settings are read member by member.** Each member that is given sets its own part, in
whatever order and among whatever others, and every other part has its default; so settings are
read back from what they are written as. A member that is given twice is an error. -/
theorem ofText_compact :
    (∀ (p : Partial) (ms others : List (Text × Json)), (∀ m ∈ others, m.1 ∉ names) →
      ms.Perm (p.members ++ others) →
      ofText (Json.object ms).compact = .ok ⟨p.expressions.getD default.expressions,
        p.faulty.getD default.faulty, p.json.getD default.json⟩) ∧
    (∀ s : Settings, ofText s.toJson.compact = .ok s) ∧
    ∀ (ms : List (Text × Json)) (key : Text), key ∈ names → 2 ≤ (ms.map Prod.fst).count key →
      ∃ e : Json.ReadError, ofText (Json.object ms).compact =
        .error (.config ("Failed to parse config: ".toList ++ e.message)) := by
  refine ⟨fun p ms others hothers hms => ?_, fun s => ?_, fun ms key hkey hcount => ?_⟩
  · exact ofText_of_perm hothers hms (Json.isDocument_compact (.object ms))
  · -- what is written are the members of the state in which everything has been read
    exact ofText_of_perm (p := ⟨some s.expressions, some s.faulty, some s.json⟩)
      (List.forall_mem_nil _) (.refl _) (Json.isDocument_compact s.toJson)
  · exact ofText_of_repeated hkey hcount (Json.isDocument_compact (.object ms))

theorem ofText_compact_some_given :
    ofText "\x7b\"json\":true,\"note\":\"\\\\\",\"expressions\":[]\x7d".toList =
      .ok ⟨[], "invalid@symbol".toList, true⟩ ∧
    ∃ e : Json.ReadError, ofText "\x7b\"json\":true,\"json\":\"\"\x7d".toList =
      .error (.config ("Failed to parse config: ".toList ++ e.message)) := by
  constructor
  · have hothers : ∀ m ∈ [("note".toList, Json.text "\\".toList)], m.1 ∉ names := by decide
    have hms : [("json".toList, Json.bool true), ("note".toList, .text "\\".toList),
        ("expressions".toList, .list [])].Perm [("expressions".toList, .list []),
        ("json".toList, .bool true), ("note".toList, .text "\\".toList)] :=
      List.perm_append_singleton _ [_, _]
    exact ofText_compact.1 ⟨some [], none, some true⟩ _ _ hothers hms
  · exact ofText_compact.2.2 [("json".toList, .bool true), ("json".toList, .text [])] "json".toList
      (by decide) (by decide)

end Settings

end ExprLexer
