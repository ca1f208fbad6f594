import EntityGraph.Proofs.Render.Reading

/-!
# The filter grammar

A well-formed filter is a sentence of the grammar

    F ::= T ((AND | OR) T)*
    T ::= NOT T | column cmp parameter | column (IS NULL | IS NOT NULL) | (F)

where `cmp` is one of `=`, `<>`, `<`, `<=`, `>`, `>=` and `LIKE`, and a nested filter is one
token standing for `(F)`. `Derives` gives the grammar as derivations, the starred part as a
chain of connectives each followed by a term. The left-to-right reading `readTokens` accepts
exactly the filters of the grammar: `derives_filter_iff_read`.

Where a filter leaves the grammar is said on its spelling, its tokens with every nested filter
written out between brackets (`spell`). A prefix of a spelling is viable when the spelling of
some filter of the grammar starts with it, so the viable prefixes of a spelling are the symbols
before its first violation. Every reading that has not failed stands after a viable prefix:
`Live` says so for the symbols read so far, and it is kept by every token the reading accepts
(`Live.step`) and by entering a nested filter (`Live.nested`).
-/

namespace EntityGraph

/-- The phrases of the filter grammar: a term, a chain of connectives each followed by a term,
and a filter. -/
inductive Phrase where
  | term
  | chain
  | filter
  deriving DecidableEq

/-- Derivations of the filter grammar. -/
inductive Derives : Phrase → List FilterToken → Prop
  | not {t : List FilterToken} : Derives .term t → Derives .term (.op .not :: t)
  | compare {c : String} {o : Operator} {p : Param} :
      o.takesParameter = true → Derives .term [.column c, .op o, .param p]
  | nullCheck {c : String} {o : Operator} :
      o.isNullCheck = true → Derives .term [.column c, .op o]
  | nested {ts : List FilterToken} : Derives .filter ts → Derives .term [.nested ts]
  | stop : Derives .chain []
  | link {o : Operator} {t c : List FilterToken} : o.isConnective = true → Derives .term t →
      Derives .chain c → Derives .chain (.op o :: t ++ c)
  | filter {t c : List FilterToken} : Derives .term t → Derives .chain c → Derives .filter (t ++ c)

theorem readTokens_append (a b : List FilterToken) (r : Reading) :
    readTokens (a ++ b) r = (readTokens a r).bind (readTokens b) := by
  induction a generalizing r with
  | nil => simp
  | cons t a ih =>
    simp only [List.cons_append, readTokens_cons]
    cases readToken t r <;> simp [ih]

/-! ## Steps of the reading -/

theorem readToken_not_term (j : JoinTo) (n : Nat) :
    readToken (.op .not) (.term j n) = some (.term j (n + 1)) := rfl

theorem readToken_connective {o : Operator} (ho : o.isConnective = true) (acc : Cond Comparison) :
    readToken (.op o) (.complete acc) = some (.term (some (acc, o)) 0) := by
  simp [readToken, ho]

theorem readToken_nested_term {ts : List FilterToken} {u : Cond Comparison}
    (h : readTokens ts .start = some (.complete u)) (j : JoinTo) (n : Nat) :
    readToken (.nested ts) (.term j n) = some (.complete (Reading.closed j n u)) := by
  simp [readToken, h]

/-! ## The reading accepts the grammar -/

/-- What a phrase completes when it is read: a term completes a condition from any reading that
waits for a term, a chain from any complete condition, and a filter from the start. -/
def Phrase.Completes : Phrase → List FilterToken → Prop
  | .term, t => ∀ j n, ∃ c, readTokens t (.term j n) = some (.complete c)
  | .chain, ts => ∀ acc, ∃ c, readTokens ts (.complete acc) = some (.complete c)
  | .filter, f => ∃ c, readTokens f .start = some (.complete c)

theorem Derives.completes {k : Phrase} {ts : List FilterToken} (h : Derives k ts) :
    k.Completes ts := by
  induction h with
  | not _ ih =>
    intro j n
    obtain ⟨c, hc⟩ := ih j (n + 1)
    exact ⟨c, by simpa [readToken] using hc⟩
  | @compare col o p ho =>
    intro j n
    exact ⟨Reading.closed j n (.atom ⟨col, o, some p⟩), by simp [readToken, ho]⟩
  | @nullCheck col o hn =>
    intro j n
    have ho : o.takesParameter = false := by
      cases o <;> simp_all [Operator.isNullCheck, Operator.takesParameter]
    exact ⟨Reading.closed j n (.atom ⟨col, o, none⟩), by simp [readToken, ho, hn]⟩
  | nested _ ih =>
    obtain ⟨c, hc⟩ := ih
    exact fun j n => ⟨Reading.closed j n c, by simp [readToken, hc]⟩
  | stop => exact fun acc => ⟨acc, rfl⟩
  | @link o t c ho _ _ iht ihc =>
    intro acc
    obtain ⟨u, hu⟩ := iht (some (acc, o)) 0
    obtain ⟨c, hc⟩ := ihc u
    exact ⟨c, by simp [readToken, ho, readTokens_append, hu, hc]⟩
  | filter _ _ iht ihc =>
    obtain ⟨u, hu⟩ := iht none 0
    obtain ⟨c, hc⟩ := ihc u
    exact ⟨c, by simp [Reading.start, readTokens_append, hu, hc]⟩

/-- The tokens that complete a filter from where a reading stands: the rest of a term, then a
chain. -/
def Reading.Rest : Reading → List FilterToken → Prop
  | .term _ _, ts => ∃ t c, Derives .term t ∧ Derives .chain c ∧ ts = t ++ c
  | .operator _ _ col, ts => ∃ t c, Derives .term (.column col :: t) ∧ Derives .chain c ∧ ts = t ++ c
  | .parameter _ _ _ _, ts => ∃ p c, Derives .chain c ∧ ts = .param p :: c
  | .complete _, ts => Derives .chain ts

theorem Reading.Rest.start {ts : List FilterToken} (h : Reading.start.Rest ts) :
    Derives .filter ts := by
  obtain ⟨t, c, ht, hc, rfl⟩ := h
  exact .filter ht hc

mutual
/-- Tokens read to a complete condition are a rest of the reading they start from. -/
theorem rest_of_readTokens : ∀ (ts : List FilterToken) {r : Reading} {c : Cond Comparison},
    readTokens ts r = some (.complete c) → r.Rest ts
  | [], _, _, h => by
    simp only [readTokens_nil, Option.some.injEq] at h
    subst h
    exact .stop
  | t :: ts, r, _, h => by
    obtain ⟨r₁, h₁, h₂⟩ := Option.bind_eq_some_iff.mp ((readTokens_cons t ts r).symm.trans h)
    exact rest_cons t h₁ (rest_of_readTokens ts h₂)

/-- A token the reading accepts, followed by a rest of where it leads, is a rest of where the
reading stood. -/
theorem rest_cons : ∀ (t : FilterToken) {r r' : Reading} {ts : List FilterToken},
    readToken t r = some r' → r'.Rest ts → r.Rest (t :: ts)
  | .nested inner, .term j n, r', ts, h, hr => by
    simp only [readToken] at h
    split at h
    · next u hu =>
      simp only [Option.some.injEq] at h
      subst h
      exact ⟨[.nested inner], ts, .nested (rest_of_readTokens inner hu).start, hr, rfl⟩
    · cases h
  | .column col, .term j n, r', ts, h, hr => by
    simp only [readToken, Option.some.injEq] at h
    subst h
    obtain ⟨t, c, ht, hc, rfl⟩ := hr
    exact ⟨.column col :: t, c, ht, hc, rfl⟩
  | .op o, .term j n, r', ts, h, hr => by
    simp only [readToken] at h
    split at h
    · next ho =>
      simp only [Option.some.injEq] at h
      subst h ho
      obtain ⟨t, c, ht, hc, rfl⟩ := hr
      exact ⟨.op .not :: t, c, .not ht, hc, rfl⟩
    · cases h
  | .op o, .operator j n col, r', ts, h, hr => by
    simp only [readToken] at h
    split at h
    · next ho =>
      simp only [Option.some.injEq] at h
      subst h
      obtain ⟨p, c, hc, rfl⟩ := hr
      exact ⟨[.op o, .param p], c, .compare ho, hc, rfl⟩
    · split at h
      · next hn =>
        simp only [Option.some.injEq] at h
        subst h
        exact ⟨[.op o], ts, .nullCheck hn, hr, rfl⟩
      · cases h
  | .param p, .parameter j n col o, r', ts, h, hr => by
    simp only [readToken, Option.some.injEq] at h
    subst h
    exact ⟨p, ts, hr, rfl⟩
  | .op o, .complete acc, r', ts, h, hr => by
    simp only [readToken] at h
    split at h
    · next ho =>
      simp only [Option.some.injEq] at h
      subst h
      obtain ⟨t, c, ht, hc, rfl⟩ := hr
      exact .link ho ht hc
    · cases h
  | .nested _, .operator .., _, _, h, _
  | .nested _, .parameter .., _, _, h, _
  | .nested _, .complete _, _, _, h, _
  | .column _, .operator .., _, _, h, _
  | .column _, .parameter .., _, _, h, _
  | .column _, .complete _, _, _, h, _
  | .op _, .parameter .., _, _, h, _
  | .param _, .term .., _, _, h, _
  | .param _, .operator .., _, _, h, _
  | .param _, .complete _, _, _, h, _ => by simp [readToken] at h
end

/-- The filters of the grammar are exactly the token lists that the left-to-right reading takes
from the start to a complete condition. -/
theorem derives_filter_iff_read {ts : List FilterToken} :
    Derives .filter ts ↔ ∃ c, readTokens ts .start = some (.complete c) :=
  ⟨fun h => h.completes, fun ⟨_, h⟩ => (rest_of_readTokens ts h).start⟩

/-- A filter reads as a condition exactly when its tokens are a filter of the grammar. -/
theorem Filter.read_isSome_iff {f : Filter} : (∃ c, f.read = some c) ↔ Derives .filter f.tokens := by
  simp only [Filter.read_eq_some_iff, derives_filter_iff_read]

/-! ## Spellings and viable prefixes -/

/-- The symbols of a spelled filter: its tokens, and the brackets of its nested filters. -/
inductive Symbol where
  | column (name : String)
  | op (o : Operator)
  | param (p : Param)
  | openNested
  | closeNested

mutual
/-- A filter's tokens with every nested filter written out between brackets. -/
def spell : List FilterToken → List Symbol
  | [] => []
  | t :: ts => spellToken t ++ spell ts

/-- One token, a nested filter written out between brackets. -/
def spellToken : FilterToken → List Symbol
  | .column c => [.column c]
  | .op o => [.op o]
  | .param p => [.param p]
  | .nested ts => .openNested :: (spell ts ++ [.closeNested])
end

@[simp] theorem spell_nil : spell [] = [] := by simp [spell]

@[simp] theorem spell_cons (t : FilterToken) (ts : List FilterToken) :
    spell (t :: ts) = spellToken t ++ spell ts := by
  simp [spell]

theorem spell_append (a b : List FilterToken) : spell (a ++ b) = spell a ++ spell b := by
  induction a with
  | nil => simp
  | cons t a ih => simp [ih]

mutual
/-- A column spelled in a filter is a column of its tokens. -/
theorem mem_tokensColumns_of_spell {c : String} : ∀ ts : List FilterToken,
    Symbol.column c ∈ spell ts → c ∈ tokensColumns ts
  | [], h => by simp at h
  | t :: ts, h => by
    rw [spell_cons, List.mem_append] at h
    rw [tokensColumns_cons, List.mem_append]
    exact h.imp (mem_tokenColumns_of_spell t) (mem_tokensColumns_of_spell ts)

theorem mem_tokenColumns_of_spell {c : String} : ∀ t : FilterToken,
    Symbol.column c ∈ spellToken t → c ∈ tokenColumns t
  | .column c', h => by simpa [spellToken, tokenColumns] using h
  | .op _, h => by simp [spellToken] at h
  | .param _, h => by simp [spellToken] at h
  | .nested ts, h => by
    simp only [spellToken, List.mem_cons, reduceCtorEq, false_or, List.mem_append, or_false,
      List.not_mem_nil] at h
    simpa [tokenColumns] using mem_tokensColumns_of_spell ts h
end

/-- A viable prefix: the beginning of the spelling of some filter of the grammar. -/
def Viable (q : List Symbol) : Prop := ∃ f, Derives .filter f ∧ q <+: spell f

theorem Viable.of_isPrefix {q q' : List Symbol} (h : Viable q) (hp : q' <+: q) : Viable q' := by
  obtain ⟨f, hf, hq⟩ := h
  exact ⟨f, hf, hp.trans hq⟩

/-- Every reading that has not failed can be completed. -/
theorem exists_completion : ∀ r : Reading, ∃ ts c, readTokens ts r = some (.complete c)
  | .term _ _ => ⟨[.column "", .op .isNull], _, rfl⟩
  | .operator _ _ _ => ⟨[.op .isNull], _, rfl⟩
  | .parameter _ _ _ _ => ⟨[.param (.slot 0)], _, rfl⟩
  | .complete c => ⟨[], c, rfl⟩

/-- The symbols `q` stand before a reading `r`: every way to complete the reading spells, after
`q`, a viable prefix. -/
def Live (q : List Symbol) (r : Reading) : Prop :=
  ∀ ts c, readTokens ts r = some (.complete c) → Viable (q ++ spell ts)

theorem live_start : Live [] .start :=
  fun _ _ h => ⟨_, derives_filter_iff_read.mpr ⟨_, h⟩, List.prefix_refl _⟩

theorem Live.viable {q : List Symbol} {r : Reading} (h : Live q r) : Viable q := by
  obtain ⟨ts, c, hc⟩ := exists_completion r
  exact (h ts c hc).of_isPrefix (List.prefix_append q _)

/-- A token the reading accepts extends the symbols read. -/
theorem Live.step {q : List Symbol} {r r' : Reading} {t : FilterToken} (h : Live q r)
    (ht : readToken t r = some r') : Live (q ++ spellToken t) r' := by
  intro ts c hc
  have hv := h (t :: ts) c (by simp [ht, hc])
  rwa [spell_cons, ← List.append_assoc] at hv

/-- Entering a nested filter in place of a term: the filter is read from the start, after the
opening bracket. -/
theorem Live.nested {q : List Symbol} {j : JoinTo} {n : Nat} (h : Live q (.term j n)) :
    Live (q ++ [.openNested]) .start := by
  intro ts c hc
  have hv := h [.nested ts] (Reading.closed j n c) (by simp [readToken, hc])
  refine hv.of_isPrefix ⟨[.closeNested], ?_⟩
  simp [spellToken]

end EntityGraph
