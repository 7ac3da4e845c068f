import ExprLexer.Proofs.Grammar.Scan
import ExprLexer.Proofs.Text.Quoted

/-!
What the log of a run tells.

Attempts at a lexeme class are spans; the events of a run are one for each token of its chain, at
the place where the token begins, and one for the way in which the run ends. So the tokens that a
run reads can be taken from its log, also where it fails and returns none of them, and even from
the log as it is written: the message of an event tells its token and the place. Who asks for
nothing less severe than `info` sees nothing of a run.
-/

namespace ExprLexer

namespace Log

def Record.event? : Record → Option Event
  | span _ => none
  | event e => some e

/-- The token that an event tells of. -/
def Event.token? : Event → Option Token
  | token t _ => some t
  | _ => none

/-- The events of a log, in order. -/
def events (log : List Record) : List Event := log.filterMap Record.event?

@[simp] lemma events_nil : events [] = [] := rfl
@[simp] lemma events_cons_span (s : Span) (log : List Record) :
    events (.span s :: log) = events log := rfl
@[simp] lemma events_cons_event (e : Event) (log : List Record) :
    events (.event e :: log) = e :: events log := rfl
@[simp] lemma events_append (log log' : List Record) :
    events (log ++ log') = events log ++ events log' := List.filterMap_append

lemma mem_events {x : Event} {log : List Record} : x ∈ events log ↔ .event x ∈ log := by
  induction log with
  | nil => simp
  | cons r log ih => cases r <;> simp [ih]

/-- A reader sees nothing if no record is as severe as asked for. -/
lemma visible_eq_nil {l : Level} {log : List Record} (h : ∀ r ∈ log, l.rank < r.level.rank) :
    visible l log = [] := by
  refine List.filter_eq_nil_iff.mpr fun r hr => ?_
  rw [decide_eq_true_eq, Nat.not_le]
  exact h r hr

lemma Event.message_token (t : Token) (p : Nat) :
    (token t p).message =
      t.kind.name ++ ' ' :: Text.quoted t.value ++ " at ".toList ++ Text.ofNat p := rfl

/-- **The message of an event tells the token and its place**: the kind ends at the first blank, the
quoted value tells its own end, and the rest are the digits of a number. -/
lemma Event.eq_of_message_eq {t t' : Token} {p p' : Nat}
    (h : (token t p).message = (token t' p').message) : t = t' ∧ p = p' := by
  simp only [message_token, List.append_assoc, List.cons_append] at h
  obtain ⟨hkind, hvalue⟩ :=
    Text.eq_of_append_cons_eq (Kind.not_mem_name (by decide) _) (Kind.not_mem_name (by decide) _) h
  obtain ⟨hvalue, hplace⟩ := Text.eq_of_quoted_append_eq hvalue
  exact ⟨Token.ext (Kind.name_injective hkind) hvalue,
    Text.ofNat_injective (List.append_cancel_left hplace)⟩

end Log

namespace Grammar

open Log

variable {g : Grammar} {e s u : Text} {ts : List Token}

/-- An event for each token, the first of which begins at `p`. -/
def tokenEvents : Nat → List Token → List Event
  | _, [] => []
  | p, t :: ts => .token t p :: tokenEvents (p + t.value.length) ts

/-- How a run ends that has read the tokens and stands in front of a text. -/
def lastEvent (ts : List Token) : Text → Event
  | [] => .finished ts.length
  | c :: _ => .failed ⟨c, (Token.concat ts).length⟩

/-- The tokens that the run over an expression reads, whether or not it comes to the end. -/
def consumed (g : Grammar) (e : Text) : List Token := (events (g.run e).1).filterMap Event.token?

lemma events_tryRules (rs : List Rule) (s : Text) : events (tryRules rs s).1 = [] := by
  have hattempt (r : Rule) :
      events (r.matcher.builtin?.toList.map fun k => .span (.attempt k)) = [] := by
    cases r.matcher.builtin? <;> rfl
  induction rs with
  | nil => rfl
  | cons r rs ih =>
    unfold tryRules
    cases r.read? s with
    | none => simp [hattempt, ih]
    | some => exact hattempt r

/-- The events along a chain. -/
lemma Reads.events_scan (h : g.Reads s ts u) (p : Nat) :
    events (g.scan p s).1 =
      tokenEvents p ts ++ events (g.scan (p + (Token.concat ts).length) u).1 := by
  induction h generalizing p with
  | stop => rfl
  | next first _ ih =>
    rw [scan_of_first? first, events_append, events_tryRules, events_cons_event, ih, tokenEvents,
      Token.concat_cons, List.length_append, Nat.add_assoc]
    rfl

/-- **The events of a run**: one for each token of the longest chain, and one for its end. -/
lemma events_run (h : g.Reads (significant e) ts u) (hstuck : g.first? u = none) :
    events (g.run e).1 = tokenEvents 0 ts ++ [lastEvent ts u] := by
  have hscan := h.events_scan 0
  rw [Nat.zero_add] at hscan
  cases u with
  | nil =>
    have hok := scan_eq_ok_iff (p := 0) |>.mpr h
    rw [scan_nil, events_nil, List.append_nil] at hscan
    unfold run
    rcases hs : g.scan 0 (significant e) with ⟨log, result⟩
    rw [hs] at hok hscan
    cases hok
    simp [hscan, lastEvent]
  | cons c t =>
    have herr := scan_eq_error_iff (p := 0) |>.mpr ⟨ts, t, h, hstuck, (Nat.zero_add _).symm⟩
    rw [scan_of_stuck hstuck, events_append, events_tryRules] at hscan
    unfold run
    rcases hs : g.scan 0 (significant e) with ⟨log, result⟩
    rw [hs] at herr hscan
    cases herr
    exact hscan

lemma filterMap_tokenEvents (p : Nat) (ts : List Token) :
    (tokenEvents p ts).filterMap Event.token? = ts := by
  induction ts generalizing p with
  | nil => rfl
  | cons t ts ih => exact congrArg (t :: ·) (ih _)

lemma token?_lastEvent (ts : List Token) (u : Text) : (lastEvent ts u).token? = none := by
  cases u <;> rfl

/-- **A run reads the longest chain.** -/
lemma consumed_eq (h : g.Reads (significant e) ts u) (hstuck : g.first? u = none) :
    g.consumed e = ts := by
  rw [consumed, events_run h hstuck, List.filterMap_append, filterMap_tokenEvents]
  simp [token?_lastEvent]

/-! ### Offsets -/

/-- The number of characters in the tokens in front of the one with index `i`. -/
def offset (ts : List Token) (i : Nat) : Nat := (Token.concat (ts.take i)).length

@[simp] lemma offset_zero (ts : List Token) : offset ts 0 = 0 := rfl

lemma offset_cons_succ (t : Token) (ts : List Token) (i : Nat) :
    offset (t :: ts) (i + 1) = t.value.length + offset ts i := by simp [offset]

lemma tokenEvents_eq_mapIdx (p : Nat) (ts : List Token) :
    tokenEvents p ts = ts.mapIdx fun i t => .token t (p + offset ts i) := by
  induction ts generalizing p with
  | nil => rfl
  | cons t ts ih =>
    rw [tokenEvents, ih, List.mapIdx_cons]
    simp only [offset_zero, offset_cons_succ, Nat.add_zero, Nat.add_assoc]

lemma tokenEvents_zero (ts : List Token) :
    tokenEvents 0 ts = ts.mapIdx fun i t => .token t (offset ts i) := by
  simp only [tokenEvents_eq_mapIdx, Nat.zero_add]

lemma map_message_tokenEvents (ts : List Token) :
    (tokenEvents 0 ts).map Event.message = ts.mapIdx fun i t =>
      t.kind.name ++ ' ' :: Text.quoted t.value ++ " at ".toList ++ Text.ofNat (offset ts i) := by
  rw [tokenEvents_zero]
  refine List.ext_getElem (by simp) fun i _ _ => ?_
  rw [List.getElem_map, List.getElem_mapIdx, List.getElem_mapIdx, Event.message_token]

/-- A token of a chain stands in the text at its offset. -/
lemma Reads.isPrefix_drop_offset (h : g.Reads s ts u) (i : Nat) (hi : i < ts.length) :
    ts[i].value <+: s.drop (offset ts i) := by
  induction h generalizing i with
  | stop => exact absurd hi (Nat.not_lt_zero i)
  | @next s rest u tok ts first _ ih =>
    have hs := (first?_spec first).2
    cases i with
    | zero => exact ⟨rest, hs⟩
    | succ i =>
      rw [offset_cons_succ, ← hs, List.drop_length_add_append]
      exact ih i (by simpa using hi)

/-! ### Levels and the end -/

lemma level_of_mem_tokenEvents {p : Nat} {x : Event} (h : x ∈ tokenEvents p ts) :
    x.level = .trace := by
  rw [tokenEvents_eq_mapIdx] at h
  obtain ⟨i, hi, rfl⟩ := List.mem_mapIdx.mp h
  rfl

lemma level_lastEvent (ts : List Token) (u : Text) : (lastEvent ts u).level = .debug := by
  cases u <;> rfl

/-- **No record of a run is as severe as `info`.** -/
lemma level_of_mem_run {r : Record} (h : r ∈ (g.run e).1) :
    r.level = .trace ∨ r.level = .debug := by
  cases r with
  | span s => exact .inr rfl
  | event x =>
    obtain ⟨us, rest, hr, hstuck⟩ := g.exists_reads (significant e)
    have hx := mem_events.mpr h
    rw [events_run hr hstuck, List.mem_append, List.mem_singleton] at hx
    rcases hx with hx | rfl
    · exact .inl (level_of_mem_tokenEvents hx)
    · exact .inr (level_lastEvent us rest)

/-- The last event tells how the run ends. -/
lemma lastEvent_tells (h : g.Reads (significant e) ts u) (hstuck : g.first? u = none) :
    (g.tokens e = .ok ts ∧ lastEvent ts u = .finished ts.length) ∨
      ∃ err, g.tokens e = .error err ∧ lastEvent ts u = .failed err := by
  rw [tokens_of_reads h hstuck]
  cases u with
  | nil => exact .inl ⟨rfl, rfl⟩
  | cons c t => exact .inr ⟨_, rfl, rfl⟩

/-- **The log is an exact trace of the run**: an event for each token of the longest chain, in
order, each with the token and the number of characters in those before it, where the token stands
in the text; then one event that states the number of tokens, or the error that is returned. These
are all events there are, and no record of the log is as severe as `info`. The message of a token's
event has the kind, the quoted value and the offset, and such events with the same message tell of
the same token at the same place. -/
theorem run_traced (g : Grammar) (e : Text) :
    (∃ us rest traces last, g.Reads (significant e) us rest ∧ g.first? rest = none ∧
      events (g.run e).1 = traces ++ [last] ∧
      traces = (us.mapIdx fun i t => .token t (offset us i)) ∧
      traces.map Event.message = (us.mapIdx fun i t =>
        t.kind.name ++ ' ' :: Text.quoted t.value ++ " at ".toList ++
          Text.ofNat (offset us i)) ∧
      (∀ x ∈ traces, x.level = .trace) ∧ last.level = .debug ∧
      (∀ i (hi : i < us.length), us[i].value <+: (significant e).drop (offset us i)) ∧
      ((g.tokens e = .ok us ∧ last = .finished us.length ∧
          last.message = "tokenized ".toList ++ Text.ofNat us.length ++ " tokens".toList) ∨
        ∃ err, g.tokens e = .error err ∧ last = .failed err ∧ last.message = err.message)) ∧
    (∀ r ∈ (g.run e).1, r.level = .trace ∨ r.level = .debug) ∧
    (∀ l : Level, l.rank ≤ Level.info.rank → visible l (g.run e).1 = []) ∧
    ∀ t p t' p', (Event.token t p).message = (Event.token t' p').message → t = t' ∧ p = p' := by
  obtain ⟨us, rest, hr, hstuck⟩ := g.exists_reads (significant e)
  refine ⟨⟨us, rest, tokenEvents 0 us, lastEvent us rest, hr, hstuck, events_run hr hstuck,
    tokenEvents_zero us, map_message_tokenEvents us, fun _ => level_of_mem_tokenEvents,
    level_lastEvent us rest, hr.isPrefix_drop_offset, ?_⟩, fun _ => level_of_mem_run,
    fun l hl => ?_, fun _ _ _ _ => Event.eq_of_message_eq⟩
  · rcases lastEvent_tells hr hstuck with ⟨hok, hlast⟩ | ⟨err, herr, hlast⟩
    · exact .inl ⟨hok, hlast, by rw [hlast]; rfl⟩
    · exact .inr ⟨err, herr, hlast, by rw [hlast]; rfl⟩
  · refine visible_eq_nil fun r hr => Nat.lt_of_le_of_lt hl ?_
    rcases level_of_mem_run hr with htrace | hdebug
    · rw [htrace]
      decide
    · rw [hdebug]
      decide

example : events (builtin.run "(12 + é)".toList).1 =
    [.token ⟨.number, "12".toList⟩ 0, .token ⟨.operator, "+".toList⟩ 2, .failed ⟨'é', 3⟩] := by cbv

end Grammar

end ExprLexer
