import ExprLexer.Json.Reader
import ExprLexer.Proofs.Json.Spelling
import Mathlib.Tactic.SplitIfs

/-!
Reading what is spelled: texts, words, names and lists.

Where a reader succeeds depends on the symbols ahead only, not on the place it has come to. A reader
decodes a value if it answers every spelling of the value in the same way, with white space in front
and whatever follows: it stops right behind the spelling, or it fails.
-/

namespace ExprLexer.Json

namespace Symbol

variable (c : Char) (t u : Text)

@[simp] lemma ofText_nil : ofText [] = [] := rfl
@[simp] lemma ofText_cons : ofText (c :: t) = char c :: ofText t := rfl
@[simp] lemma ofText_append : ofText (t ++ u) = ofText t ++ ofText u := List.map_append

@[simp] lemma length_ofText : (ofText t).length = t.length := List.length_map char

@[simp] lemma chars_ofText : chars (ofText t) = t := by
  simp [chars, ofText, List.filterMap_map]

lemma dropWhile_isChar_ofText : (ofText t).dropWhile isChar = [] := by
  induction t with
  | nil => rfl
  | cons c t ih => exact ih

end Symbol

/-! ### Cursors -/

namespace Cursor

variable {c : Cursor} {w : Text} {x : Char} {y : Symbol} {s : List Symbol}

lemma next?_of_rest (h : c.rest = .char x :: s) : c.next? = some x := by simp [next?, h]

lemma atEnd_of_rest (h : c.rest = y :: s) : c.atEnd = false := by simp [atEnd, h]

lemma rest_advance (h : c.rest = y :: s) : c.advance.rest = s := by simp [advance, h]

/-- White space is skipped up to a symbol that is none, or to the end. -/
lemma skipSpaceFrom_snd (hw : IsSpacing w)
    (hs : ∀ x, s.head? = some (.char x) → isSpace x = false) (p : Place) :
    (skipSpaceFrom p (Symbol.ofText w ++ s)).2 = s := by
  induction w generalizing p with
  | nil =>
    rcases s with _ | ⟨x | b, s⟩
    · rfl
    · simp [skipSpaceFrom, hs x rfl]
    · rfl
  | cons d w ih =>
    obtain ⟨hd, hw⟩ := List.forall_mem_cons.mp hw
    rw [Symbol.ofText_cons, List.cons_append, skipSpaceFrom, if_pos hd]
    exact ih hw (p.after (.char d))

lemma rest_skipSpace (hw : IsSpacing w) (hx : isSpace x = false)
    (h : c.rest = Symbol.ofText w ++ .char x :: s) : c.skipSpace.rest = .char x :: s := by
  rw [skipSpace, h]
  refine skipSpaceFrom_snd hw (fun y hy => ?_) c.place
  cases hy
  exact hx

lemma rest_skipSpace_end (hw : IsSpacing w) (h : c.rest = Symbol.ofText w) :
    c.skipSpace.rest = [] := by
  have hend := skipSpaceFrom_snd (s := []) hw (by simp) c.place
  rw [List.append_nil] at hend
  rw [skipSpace, h]
  exact hend

end Cursor

/-- Succeeds in front of the symbols. -/
def Reaches (result : Except ReadError Cursor) (s : List Symbol) : Prop :=
  ∃ c, result = .ok c ∧ c.rest = s

/-- Succeeds with a value, in front of the symbols. -/
def Gives {α : Type} (result : Except ReadError (α × Cursor)) (a : α) (s : List Symbol) : Prop :=
  ∃ c, result = .ok (a, c) ∧ c.rest = s

/-- Succeeds with the value, in front of the symbols, or fails if there is none. -/
def Answers {α : Type} (result : Except ReadError (α × Cursor)) (a? : Option α)
    (s : List Symbol) : Prop :=
  match a? with
  | some a => Gives result a s
  | none => ∃ e, result = .error e

section Results

variable {α β : Type} {a : α} {a? : Option α} {b? : Option β} {s u : List Symbol}
  {r : Except ReadError (α × Cursor)} {f : α × Cursor → Except ReadError (β × Cursor)}

lemma Gives.bind (hr : Gives r a s) (hf : ∀ c, c.rest = s → Answers (f (a, c)) b? u) :
    Answers (r >>= f) b? u := by
  obtain ⟨c, rfl, hc⟩ := hr
  exact hf c hc

lemma Reaches.bind {r : Except ReadError Cursor} {f : Cursor → Except ReadError (β × Cursor)}
    (hr : Reaches r s) (hf : ∀ c, c.rest = s → Answers (f c) b? u) : Answers (r >>= f) b? u := by
  obtain ⟨c, rfl, hc⟩ := hr
  exact hf c hc

lemma Answers.bind {g : α → Option β} (hr : Answers r a? s)
    (hf : ∀ a c, c.rest = s → Answers (f (a, c)) (g a) u) : Answers (r >>= f) (a?.bind g) u := by
  cases a? with
  | some a => exact Gives.bind hr (hf a)
  | none =>
    obtain ⟨e, rfl⟩ := hr
    exact ⟨e, rfl⟩

end Results

/-! ### Texts -/

open TextStep

/-- Scanning comes to the end of a text in front of the rest, and a text that is wanted is decoded
as `x`. -/
def Scans (use : TextUse) (m : TextMode) (x : Text) (s rest : List Symbol) : Prop :=
  ∀ p, ∃ t, scanText use m p s = .ok t ∧ t.rest = rest ∧
    (use = .wanted → t.symbols = Symbol.ofText x)

namespace Scans

variable {use : TextUse} {m : TextMode} {x : Text} {c : Char} {y : Symbol}
  {s rest : List Symbol}

lemma closes (use : TextUse) (s : List Symbol) : Scans use .plain [] (.char '"' :: s) s :=
  fun p => ⟨⟨[], p.after (.char '"'), s⟩, by simp [scanText, ofSymbol], rfl, fun _ => rfl⟩

lemma reads (m' : TextMode) (hy : ofSymbol use m y = .reads m') (h : Scans use m' x s rest) :
    Scans use m x (y :: s) rest := by
  intro p
  obtain ⟨t, ht, hrest⟩ := h (p.after y)
  exact ⟨t, by simp [scanText, hy, ht], hrest⟩

lemma adds (hy : ofSymbol use m y = .adds (.char c)) (h : Scans use .plain x s rest) :
    Scans use m (c :: x) (y :: s) rest := by
  intro p
  obtain ⟨t, ht, hrest, hsymbols⟩ := h (p.after y)
  refine ⟨t.cons (.char c), by simp [scanText, hy, ht, Except.map], hrest, fun huse => ?_⟩
  simp [ScannedText.cons, hsymbols huse]

/-- Of a text that is not wanted only the end counts. -/
lemma skipped (huse : use ≠ .wanted) {x' : Text} (h : Scans use m x' s rest) :
    Scans use m x s rest := by
  intro p
  obtain ⟨t, ht, hrest, -⟩ := h p
  exact ⟨t, ht, hrest, fun hwanted => absurd hwanted huse⟩

lemma width_of_hexDigit? {d : Char} {i : Nat} (h : Text.hexDigit? d = some i) :
    (Symbol.char d).width = 1 := by
  have hascii : d.val ≤ 127 := by
    unfold Text.hexDigit? at h
    simp only [Char.isDigit, Bool.and_eq_true, decide_eq_true_eq, Char.le_def] at h
    split_ifs at h with hdigit hlower hupper
    · exact UInt32.le_trans hdigit.2 (by decide)
    · exact UInt32.le_trans hlower.2 (by decide)
    · exact UInt32.le_trans hupper.2 (by decide)
  exact Char.utf8Size_eq_one_iff.mpr hascii

/-- One of the first three digits of an escape. -/
lemma digit {d : Char} {left n i : Nat} {high : Option Nat} (hd : Text.hexDigit? d = some i)
    (h : Scans use (.hex (left + 1) (some (16 * n + i)) high) x s rest) :
    Scans use (.hex (left + 2) (some n) high) x (.char d :: s) rest := by
  refine reads _ ?_ h
  simp [ofSymbol, ofHex, hd, width_of_hexDigit? hd]

lemma ofSymbol_lastDigit {d : Char} {n i : Nat} {high : Option Nat}
    (hd : Text.hexDigit? d = some i) :
    ofSymbol use (.hex 1 (some n) high) (.char d) =
      if use = .wanted then ofUnit (16 * n + i) high 1 else .reads .plain := by
  simp [ofSymbol, ofHex, hd, width_of_hexDigit? hd]

/-- The escape of a code unit in a text that is skipped. -/
lemma unit_skipped {t : Text} {n : Nat} {high : Option Nat} (ht : IsCodeUnit t n)
    (huse : use ≠ .wanted) (h : Scans use .plain x s rest) :
    Scans use (.hex 4 (some 0) high) x (Symbol.ofText t ++ s) rest := by
  obtain ⟨ha, hb, hc, hd⟩ := ht
  refine digit ha (digit hb (digit hc (reads _ ?_ h)))
  rw [ofSymbol_lastDigit hd, if_neg huse]

/-- The escape of a code unit that is a character, or completes one. -/
lemma unit_adds {t : Text} {n : Nat} {high : Option Nat} (ht : IsCodeUnit t n)
    (hn : ofUnit n high 1 = .adds (.char c)) (h : Scans .wanted .plain x s rest) :
    Scans .wanted (.hex 4 (some 0) high) (c :: x) (Symbol.ofText t ++ s) rest := by
  obtain ⟨ha, hb, hc, hd⟩ := ht
  refine digit ha (digit hb (digit hc (adds ?_ h)))
  rw [ofSymbol_lastDigit hd, if_pos rfl, hn]

/-- The escape of a high surrogate. -/
lemma unit_reads {t : Text} {n : Nat} (ht : IsCodeUnit t n)
    (hn : ofUnit n none 1 = .reads m) (h : Scans .wanted m x s rest) :
    Scans .wanted (.hex 4 (some 0) none) x (Symbol.ofText t ++ s) rest := by
  obtain ⟨ha, hb, hc, hd⟩ := ht
  refine digit ha (digit hb (digit hc (reads _ ?_ h)))
  rw [ofSymbol_lastDigit hd, if_pos rfl, hn]

lemma ofSymbol_plain (hquote : c ≠ '"') (hslash : c ≠ '\\') (hcontrol : 0x20 ≤ c.toNat) :
    ofSymbol use .plain (.char c) = .adds (.char c) := by
  simp only [ofSymbol]
  rw [if_neg (by omega)]

lemma ofSymbol_escape {l : Char} (h : (l, c) ∈ shortEscapes) :
    ofSymbol use .escape (.char l) = .adds (.char c) := by
  have hu := ne_u_of_mem_shortEscapes h
  simp only [ofSymbol]
  rw [lookup_shortEscapes h]

lemma ofUnit_high {n : Nat} (h : isHighSurrogate n = true) (bytes : Nat) :
    ofUnit n none bytes = .reads (.paired n) := by
  have hlow : isLowSurrogate n = false := by
    simp only [isHighSurrogate, isLowSurrogate, Bool.and_eq_true, decide_eq_true_eq,
      Bool.and_eq_false_iff, decide_eq_false_iff_not] at h ⊢
    omega
  simp [ofUnit, h, hlow]

/-- A character of the text, however it is spelled. -/
lemma char {t : Text} (hc : SpellsChar c t) (h : Scans use .plain x s rest) :
    Scans use .plain (c :: x) (Symbol.ofText t ++ s) rest := by
  cases hc with
  | plain hquote hslash hcontrol => exact adds (ofSymbol_plain hquote hslash hcontrol) h
  | short hl => exact reads .escape rfl (adds (ofSymbol_escape hl) h)
  | unit ht =>
    refine reads .escape rfl (reads (.hex 4 (some 0) none) rfl ?_)
    by_cases huse : use = .wanted
    · subst huse
      refine unit_adds ht ?_ h
      simp [ofUnit, not_isSurrogate]
    · exact unit_skipped ht huse (skipped huse h)
  | pair hs ht hhigh hlow hc =>
    rw [Symbol.ofText_append, List.append_assoc]
    refine reads .escape rfl (reads (.hex 4 (some 0) none) rfl ?_)
    by_cases huse : use = .wanted
    · subst huse
      refine unit_reads hs (ofUnit_high hhigh 1) (reads (.pairedEscape _) rfl
        (reads (.hex 4 (some 0) (some _)) rfl (unit_adds ht ?_ h)))
      rw [ofUnit, if_pos hlow, ← hc, Char.ofNat_toNat]
    · refine unit_skipped hs huse (reads .escape rfl
        (reads (.hex 4 (some 0) none) rfl ?_))
      exact unit_skipped ht huse (skipped huse h)

/-- **A text that is spelled is scanned** to its closing quote. -/
lemma body (use : TextUse) {t : Text} (hx : SpellsBody x t) (rest : List Symbol) :
    Scans use .plain x (Symbol.ofText t ++ rest) rest := by
  induction hx with
  | nil => exact closes use rest
  | cons hc _ ih =>
    rw [Symbol.ofText_append, List.append_assoc]
    exact char hc ih

end Scans

section Texts

variable {x t : Text} {s : List Symbol} {c : Cursor}

lemma gives_takeText (hx : SpellsBody x t) (h : c.rest = Symbol.ofText t ++ s) :
    Gives (takeText c) x s := by
  obtain ⟨t', ht, hrest, hsymbols⟩ := Scans.body .wanted hx s c.place
  refine ⟨⟨t'.rest, t'.place, false, c.streamed⟩, ?_, hrest⟩
  rw [takeText, h, ht]
  simp [bind, Except.bind, hsymbols rfl, Symbol.dropWhile_isChar_ofText, pure, Except.pure]

lemma reaches_skipText (hx : SpellsBody x t) (h : c.rest = Symbol.ofText t ++ s) :
    Reaches (skipText c) s := by
  obtain ⟨t', ht, hrest, -⟩ := Scans.body (.skipped c.streamed) hx s c.place
  refine ⟨⟨t'.rest, t'.place, false, c.streamed⟩, ?_, hrest⟩
  rw [skipText, h, ht]
  rfl

end Texts

/-! ### Values -/

/-- The first character of every spelling. -/
def initial : Json → Char
  | null => 'n'
  | bool true => 't'
  | bool false => 'f'
  | text _ => '"'
  | list _ => '['
  | object _ => '\x7b'

lemma isSpace_initial (x : Json) : Cursor.isSpace x.initial = false := by
  cases x with
  | bool b => cases b <;> rfl
  | null | text | list | object => rfl

lemma initial_ne_close (x : Json) : x.initial ≠ ']' := by
  cases x with
  | bool b => cases b <;> simp [initial]
  | null | text | list | object => simp [initial]

lemma Spells.exists_cons {x : Json} {t : Text} (h : Spells x t) : ∃ u, t = x.initial :: u := by
  cases h <;> exact ⟨_, rfl⟩

/-- The reader answers every spelling of a value with what the value is decoded to, and stops behind
it. -/
def Decodes {α : Type} (r : Reader α) (decode : Json → Option α) : Prop :=
  ∀ ⦃x : Json⦄ ⦃w t : Text⦄ ⦃s : List Symbol⦄ ⦃c : Cursor⦄, IsSpacing w → Spells x t →
    c.rest = Symbol.ofText w ++ (Symbol.ofText t ++ s) → Answers (r c) (decode x) s

lemma Decodes.map {α β : Type} {r : Reader α} {decode : Json → Option α} (hr : Decodes r decode)
    (f : α → β) :
    Decodes (fun c => do let (a, c) ← r c; return (f a, c)) fun x => (decode x).map f := by
  intro x w t s c hw ht h
  simp only [Option.map_eq_bind]
  exact (hr hw ht h).bind fun a c hc => ⟨c, rfl, hc⟩

/-- The text, of a text. -/
def text? : Json → Option Text
  | text t => some t
  | _ => none

def bool? : Json → Option Bool
  | bool b => some b
  | _ => none

def null? : Json → Option Unit
  | null => some ()
  | _ => none

/-- The texts of a list of texts. -/
def texts? : Json → Option (List Text)
  | list xs => xs.mapM text?
  | _ => none

/-- What a known name stands for. -/
def name? {α : Type} (known : List (Text × α)) (x : Json) : Option α :=
  x.text?.bind (List.lookup · known)

/-- What a known name stands for, which may be the only key of an object, with the value null. -/
def variant? {α : Type} (known : List (Text × α)) : Json → Option α
  | text t => name? known (.text t)
  | object ((k, x) :: ms) =>
    (name? known (.text k)).bind fun a => x.null?.bind fun _ => if ms.isEmpty then some a else none
  | _ => none

lemma texts?_map_text (ts : List Text) : texts? (.list (ts.map .text)) = some ts := by
  induction ts with
  | nil => rfl
  | cons t ts ih =>
    rw [texts?] at ih ⊢
    simp [List.mapM_cons, ih, text?]

section Values

variable {α : Type} {w t : Text} {x : Json} {d : Char} {s : List Symbol} {c : Cursor}

lemma reaches_startValue (hw : IsSpacing w) (hd : Cursor.isSpace d = false)
    (h : c.rest = Symbol.ofText w ++ .char d :: s) : Reaches (startValue c) (.char d :: s) := by
  have hskip := Cursor.rest_skipSpace hw hd h
  refine ⟨c.skipSpace, ?_, hskip⟩
  simp [startValue, Cursor.atEnd_of_rest hskip]

/-- A value may be refused at its first character. -/
lemma Spells.refuses (hw : IsSpacing w) (ht : Spells x t)
    (h : c.rest = Symbol.ofText w ++ (Symbol.ofText t ++ s))
    {f : Cursor → Except ReadError (α × Cursor)}
    (hf : ∀ c, c.next? = some x.initial → ∃ e, f c = .error e) :
    Answers (startValue c >>= f) none s := by
  obtain ⟨u, rfl⟩ := ht.exists_cons
  exact (reaches_startValue hw (isSpace_initial x) h).bind fun c hc =>
    hf c (Cursor.next?_of_rest hc)

lemma decodes_readText (expected : String) : Decodes (readText expected) text? := by
  intro x w t s c hw ht h
  cases x with
  | text x =>
    cases ht with
    | text hx =>
      refine (reaches_startValue hw (by decide) h).bind fun c hc => ?_
      rw [if_pos (Cursor.next?_of_rest hc)]
      exact gives_takeText hx (Cursor.rest_advance hc)
  | bool b => exact ht.refuses hw h fun c hc => by cases b <;> exact ⟨_, by rw [hc]; rfl⟩
  | null | list | object => exact ht.refuses hw h fun c hc => ⟨_, by rw [hc]; rfl⟩

/-- A word is taken as it stands. -/
lemma reaches_takeWord {word : Text} (h : c.rest = Symbol.ofText word ++ s) :
    Reaches (c.takeWord word) s := by
  induction word generalizing c with
  | nil => exact ⟨c, rfl, h⟩
  | cons d word ih =>
    rw [Symbol.ofText_cons, List.cons_append] at h
    rw [Cursor.takeWord, if_neg (by simp [Cursor.atEnd_of_rest h]),
      if_pos (Cursor.next?_of_rest h)]
    exact ih (Cursor.rest_advance h)

lemma decodes_readBool : Decodes readBool bool? := by
  intro x w t s c hw ht h
  cases x with
  | bool b =>
    cases ht
    all_goals
      refine (reaches_startValue hw (by decide) h).bind fun c hc => ?_
      rw [Cursor.next?_of_rest hc]
      exact (reaches_takeWord (Cursor.rest_advance hc)).bind fun c hc => ⟨c, rfl, hc⟩
  | null | text | list | object => exact ht.refuses hw h fun c hc => ⟨_, by rw [hc]; rfl⟩

lemma decodes_readNull : Decodes readNull null? := by
  intro x w t s c hw ht h
  cases x with
  | null =>
    cases ht
    refine (reaches_startValue hw (by decide) h).bind fun c hc => ?_
    rw [Cursor.next?_of_rest hc]
    exact (reaches_takeWord (Cursor.rest_advance hc)).bind fun c hc => ⟨c, rfl, hc⟩
  | bool b => exact ht.refuses hw h fun c hc => by cases b <;> exact ⟨_, by rw [hc]; rfl⟩
  | text | list | object => exact ht.refuses hw h fun c hc => ⟨_, by rw [hc]; rfl⟩

lemma decodes_readName (known : List (Text × α)) : Decodes (readName known) (name? known) := by
  intro x w t s c hw ht h
  refine (decodes_readText _ hw ht h).bind fun name c hc => ?_
  cases hname : known.lookup name with
  | some a =>
    simp only [hname]
    exact ⟨c, rfl, hc⟩
  | none =>
    simp only [hname]
    exact ⟨_, rfl⟩

lemma reaches_takeColon (hw : IsSpacing w) (h : c.rest = Symbol.ofText w ++ .char ':' :: s) :
    Reaches (takeColon c) s := by
  have hskip := Cursor.rest_skipSpace hw (by decide) h
  refine ⟨c.skipSpace.advance, ?_, Cursor.rest_advance hskip⟩
  simp [takeColon, Cursor.next?_of_rest hskip]

end Values

/-! ### Lists -/

section Lists

variable {isFirst : Bool} {g w t : Text} {x : Char} {s : List Symbol} {c : Cursor}
  {xs : List Json}

/-- The symbols ahead are enough to count the items. -/
lemma SpellsItems.length_lt_rest {α : Type} {SpellsItem : α → Text → Prop} {close : Char}
    {ys : List α} (hvisible : ∀ ⦃y t⦄, SpellsItem y t → IsVisible t)
    (ht : SpellsItems SpellsItem close isFirst ys t) (h : c.rest = Symbol.ofText t ++ s) :
    ys.length < c.rest.length + 1 := by
  have hlength := ht.length_lt hvisible
  rw [h, List.length_append, Symbol.length_ofText]
  omega

lemma gives_nextItem (hg : IsGap isFirst g) (hx : Cursor.isSpace x = false) (hclose : x ≠ ']')
    (h : c.rest = Symbol.ofText g ++ .char x :: s) :
    Gives (nextItem isFirst c) true (.char x :: s) := by
  cases hg with
  | first hw =>
    have hskip := Cursor.rest_skipSpace hw hx h
    refine ⟨c.skipSpace, ?_, hskip⟩
    simp [nextItem, Cursor.atEnd_of_rest hskip, Cursor.next?_of_rest hskip, hclose]
  | next hv hw =>
    simp only [Symbol.ofText_append, Symbol.ofText_cons, List.append_assoc, List.cons_append] at h
    have hcomma := Cursor.rest_skipSpace hv (by decide) h
    have hskip := Cursor.rest_skipSpace hw hx (Cursor.rest_advance hcomma)
    refine ⟨c.skipSpace.advance.skipSpace, ?_, hskip⟩
    simp [nextItem, Cursor.atEnd_of_rest hcomma, Cursor.next?_of_rest hcomma,
      Cursor.atEnd_of_rest hskip, Cursor.next?_of_rest hskip, hclose]

lemma gives_nextItem_close (hw : IsSpacing w) (h : c.rest = Symbol.ofText w ++ .char ']' :: s) :
    Gives (nextItem isFirst c) false (.char ']' :: s) := by
  have hskip := Cursor.rest_skipSpace hw (by decide) h
  refine ⟨c.skipSpace, ?_, hskip⟩
  simp [nextItem, Cursor.atEnd_of_rest hskip, Cursor.next?_of_rest hskip]

lemma answers_readItems {n : Nat} (ht : SpellsItems Spells ']' isFirst xs t) (hn : xs.length < n)
    (h : c.rest = Symbol.ofText t ++ s) :
    Answers (readItems n isFirst c) (xs.mapM text?) (.char ']' :: s) := by
  induction xs generalizing n isFirst t c with
  | nil =>
    obtain ⟨n, rfl⟩ : ∃ k, n = k + 1 := Nat.exists_eq_add_one.mpr hn
    cases ht with
    | nil hw =>
      rw [Symbol.ofText_append, List.append_assoc] at h
      exact (gives_nextItem_close hw h).bind fun c hc => ⟨c, rfl, hc⟩
  | cons x xs ih =>
    obtain ⟨n, rfl⟩ : ∃ k, n = k + 1 := Nat.exists_eq_add_one.mpr (by omega)
    cases ht with
    | cons hg hx hxs =>
      obtain ⟨u, rfl⟩ := hx.exists_cons
      simp only [Symbol.ofText_append, List.append_assoc] at h
      rw [List.mapM_cons]
      refine (gives_nextItem hg (isSpace_initial x) (initial_ne_close x) h).bind fun c hc => ?_
      refine (decodes_readText _ isSpacing_nil hx hc).bind fun a c hc => ?_
      exact (ih hxs (by simpa using hn) hc).bind fun as c hc => ⟨c, rfl, hc⟩

lemma reaches_endList (hw : IsSpacing w) (h : c.rest = Symbol.ofText w ++ .char ']' :: s) :
    Reaches (endList c) s := by
  have hskip := Cursor.rest_skipSpace hw (by decide) h
  refine ⟨c.skipSpace.advance, ?_, Cursor.rest_advance hskip⟩
  simp [endList, closeList, Cursor.next?_of_rest hskip]

lemma endList_eq_error (h : c.skipSpace.next? ≠ some ']') : ∃ e, endList c = .error e := by
  simp only [endList, closeList, if_neg h]
  split_ifs
  all_goals exact ⟨_, rfl⟩

/-- A list does not end in front of an item. -/
lemma SpellsItems.endList_eq_error {x : Json}
    (ht : SpellsItems Spells ']' isFirst (x :: xs) t) (h : c.rest = Symbol.ofText t ++ s) :
    ∃ e, endList c = .error e := by
  refine Json.endList_eq_error ?_
  cases ht with
  | cons hg hx _ =>
    obtain ⟨u, rfl⟩ := hx.exists_cons
    simp only [Symbol.ofText_append, List.append_assoc] at h
    cases hg with
    | first hw =>
      rw [Cursor.next?_of_rest (Cursor.rest_skipSpace hw (isSpace_initial x) h)]
      simp [initial_ne_close x]
    | next hv hw =>
      simp only [Symbol.ofText_append, Symbol.ofText_cons, List.append_assoc,
        List.cons_append] at h
      rw [Cursor.next?_of_rest (Cursor.rest_skipSpace hv (by decide) h)]
      decide

lemma decodes_readTexts : Decodes readTexts texts? := by
  intro x w t s c hw ht h
  cases x with
  | list xs =>
    cases ht with
    | list hxs =>
      refine (reaches_startValue hw (by decide) h).bind fun c hc => ?_
      rw [if_pos (Cursor.next?_of_rest hc)]
      have hadvance : c.advance.rest = Symbol.ofText _ ++ s := Cursor.rest_advance hc
      rw [texts?, ← Option.bind_fun_some (xs.mapM text?)]
      have hfuel := hxs.length_lt_rest (fun _ _ => Spells.isVisible) hadvance
      refine (answers_readItems hxs hfuel hadvance).bind fun ts c hc => ?_
      exact (reaches_endList isSpacing_nil hc).bind fun c hc => ⟨c, rfl, hc⟩
  | bool b => exact ht.refuses hw h fun c hc => by cases b <;> exact ⟨_, by rw [hc]; rfl⟩
  | null | text | object => exact ht.refuses hw h fun c hc => ⟨_, by rw [hc]; rfl⟩

end Lists

/-! ### Documents -/

section Documents

variable {α : Type} {r : Reader α} {decode : Json → Option α} {x : Json} {a : α} {t : Text}

lemma IsDocument.answers (hr : Decodes r decode) (streamed : Bool) (ht : IsDocument x t) :
    ∃ w, IsSpacing w ∧
      Answers (r (.ofSymbols streamed (Symbol.ofText t))) (decode x) (Symbol.ofText w) := by
  obtain ⟨v, u, w, hv, hx, hw, rfl⟩ := ht
  refine ⟨w, hw, hr hv hx ?_⟩
  simp [Cursor.ofSymbols]

/-- **A document is read** as what its value is decoded to, -/
lemma readDocument_eq_ok (hr : Decodes r decode) (streamed : Bool) (ht : IsDocument x t)
    (hx : decode x = some a) : readDocument r streamed (Symbol.ofText t) = .ok a := by
  obtain ⟨w, hw, hread⟩ := ht.answers hr streamed
  rw [hx] at hread
  obtain ⟨c, hread, hc⟩ := hread
  have hend := Cursor.rest_skipSpace_end hw hc
  rw [readDocument, hread]
  simp [bind, Except.bind, Cursor.atEnd, hend, pure, Except.pure]

/-- and refused if the value is decoded to nothing. -/
lemma readDocument_eq_error (hr : Decodes r decode) (streamed : Bool) (ht : IsDocument x t)
    (hx : decode x = none) : ∃ e, readDocument r streamed (Symbol.ofText t) = .error e := by
  obtain ⟨w, -, hread⟩ := ht.answers hr streamed
  rw [hx] at hread
  obtain ⟨e, hread⟩ := hread
  exact ⟨e, by rw [readDocument, hread]; rfl⟩

end Documents

end ExprLexer.Json
