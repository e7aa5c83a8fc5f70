import Conformance.Proofs.Token.Cursor

/-!
# Fetching on demand

A token buffer asks its source for a token only when an operation needs one. What it has fetched is
the beginning of what the source hands out, up to the first end token, each token under its number,
and the source stands just behind that. Every operation that answers a token fetches up to that
token and no further, and filling the buffer fetches up to the end token. The main statement says
this of every sequence of operations.
-/

namespace Conformance

/-! ## Asking a source -/

namespace TokenSource

/-- The source after it has been asked for so many tokens. -/
def skip (source : TokenSource) : Nat → TokenSource
  | 0 => source
  | count + 1 => (source.skip count).next.2

/-- The token that the source hands out after so many others. -/
def handed (source : TokenSource) (count : Nat) : Token :=
  (source.skip count).next.1

/-- The first token handed out may be asked for apart. -/
theorem skip_next (source : TokenSource) (count : Nat) :
    source.next.2.skip count = source.skip (count + 1) := by
  induction count with
  | zero => rfl
  | succ count ih =>
    rw [skip, ih]
    rfl

/-- The tokens of a source are those handed out, with their numbers. -/
theorem getElem_tokensFrom (source : TokenSource) (number offset : Nat)
    (inside : offset < (source.tokensFrom number).length) :
    (source.tokensFrom number)[offset] = (source.handed offset).number (number + offset) := by
  induction offset generalizing source number with
  | zero =>
    rw [List.getElem_zero, List.head_eq_iff_head?_eq_some]
    rw [tokensFrom]
    split <;> rfl
  | succ offset ih =>
    have going : source.next.1.isEof = false := by
      cases ends : source.next.1.isEof with
      | false => rfl
      | true =>
        rw [tokensFrom, if_pos ends] at inside
        simp at inside
    have unfolded : source.tokensFrom number =
        source.next.1.number number :: source.next.2.tokensFrom (number + 1) := by
      rw [tokensFrom, if_neg (Bool.eq_false_iff.1 going)]
    simp only [unfolded, List.getElem_cons_succ, ih]
    rw [handed, skip_next, ← handed]
    congr 1
    omega

end TokenSource

namespace TokenBuffer

/-! ## How far an operation fetches -/

section

variable {buffer : TokenBuffer} {number : Nat}

/-- Reaching a number inside the stock fetches up to it. -/
theorem size_reach (inside : number < buffer.stock.length) :
    (buffer.reach number).fetched.size = max buffer.fetched.size (number + 1) := by
  fun_induction reach buffer number with
  | case1 buffer short ih =>
    rw [ih (stock_fetch short.2 ▸ inside), size_fetch]
    omega
  | case2 buffer reached =>
    have held : number < buffer.fetched.size := by
      cases filled : buffer.isFilled with
      | true => exact length_stock_of_isFilled filled ▸ inside
      | false => exact Nat.lt_of_not_le fun short => reached ⟨short, filled⟩
    omega

/-- Seeking from a number inside the stock fetches up to the token found, which is none before
that number. -/
theorem size_nextVisible (terminated : Terminated buffer.stock)
    (inside : number < buffer.stock.length) :
    number ≤ (buffer.nextVisible number).1 ∧ (buffer.nextVisible number).2.fetched.size =
      max buffer.fetched.size ((buffer.nextVisible number).1 + 1) := by
  fun_induction nextVisible buffer number with
  | case1 buffer number reached absent =>
    have held : number < reached.fetched.size := lt_size_reach inside
    rw [Array.getElem?_eq_none_iff] at absent
    omega
  | case3 buffer number reached token held visible => exact ⟨Nat.le_refl _, size_reach inside⟩
  | case2 buffer number reached token held hidden ih =>
    have size : reached.fetched.size = max buffer.fetched.size (number + 1) := size_reach inside
    have sameStock : reached.stock = buffer.stock := (buffer.reach_extends number).stock
    have terminated : Terminated reached.stock := sameStock ▸ terminated
    cases ends : token.isEof with
    | true =>
      rw [nextVisible_behind_end terminated held ends]
      exact ⟨Nat.le_refl _, size⟩
    | false =>
      have found : reached.stock[number]? = some token := (getElem?_stock (by omega)).trans held
      obtain ⟨within, same⟩ := List.getElem?_eq_some_iff.1 found
      have ending := terminated.isEof_getElem within
      rw [same, ends] at ending
      have further : number + 1 < reached.stock.length :=
        Nat.lt_of_le_of_ne within fun last => Bool.false_ne_true (ending.2 last)
      obtain ⟨later, fetched⟩ := ih terminated further
      omega

/-- Stepping from a token held fetches up to the token found, which is none before it. -/
theorem size_forward (terminated : Terminated buffer.stock) {token : Token}
    (holds : buffer.Holds number token) (steps : Nat) :
    number ≤ (buffer.forward number steps).1 ∧ (buffer.forward number steps).2.fetched.size =
      max buffer.fetched.size ((buffer.forward number steps).1 + 1) := by
  have held : number < buffer.fetched.size := (Array.getElem?_eq_some_iff.1 holds.held).1
  induction steps generalizing buffer number token with
  | zero =>
    change number ≤ number ∧ buffer.fetched.size = max buffer.fetched.size (number + 1)
    omega
  | succ steps ih =>
    rw [forward, holds.token_eq]
    cases ends : token.isEof with
    | true =>
      change number ≤ number ∧ buffer.fetched.size = max buffer.fetched.size (number + 1)
      omega
    | false =>
      obtain ⟨within, same⟩ := List.getElem?_eq_some_iff.1 holds.getElem?_stock
      have ending := terminated.isEof_getElem within
      rw [same, ends] at ending
      have further : number + 1 < buffer.stock.length :=
        Nat.lt_of_le_of_ne within fun last => Bool.false_ne_true (ending.2 last)
      have extension := buffer.nextVisible_extends (number + 1)
      obtain ⟨later, fetched⟩ := size_nextVisible terminated further
      obtain ⟨next, nextHolds, -⟩ := nextVisible_holds terminated further
      obtain ⟨beyond, size⟩ := ih (extension.stock ▸ terminated) nextHolds
        (Array.getElem?_eq_some_iff.1 nextHolds.held).1
      simp only [Bool.false_eq_true, ↓reduceIte]
      omega

end

namespace Shows

variable {buffer : TokenBuffer} {tokens : List Token}

/-- Asking for the number of the next visible token fetches up to that token. -/
theorem size_index (shown : buffer.Shows tokens) :
    buffer.index.2.fetched.size = max buffer.fetched.size (buffer.index.1 + 1) :=
  (size_nextVisible shown.terminated shown.inside).2

/-- Looking ahead fetches up to the token looked at. -/
theorem size_lookahead (shown : buffer.Shows tokens) (offset : Nat) :
    (buffer.lookahead offset).2.fetched.size =
      max buffer.fetched.size ((buffer.lookahead offset).1.index + 1) := by
  obtain ⟨token, rest, rfl⟩ := List.exists_cons_of_length_pos shown.terminated_tokens.length_pos
  have extended := shown.of_extends (buffer.nextVisible_extends buffer.place)
  have holds := shown.nextVisible.1
  obtain ⟨found, foundHolds, -⟩ := forward_holds extended.terminated holds (offset - 1)
  have index : found.index = _ :=
    (extended.of_extends (forward_extends _ _ _)).numbered _ _ foundHolds.getElem?_stock
  obtain ⟨-, first⟩ := size_nextVisible shown.terminated shown.inside
  obtain ⟨later, size⟩ := size_forward extended.terminated holds (offset - 1)
  simp only [TokenBuffer.lookahead, foundHolds.token_eq, index]
  omega

/-- Consuming fetches up to the token consumed. -/
theorem size_consume (shown : buffer.Shows tokens) :
    buffer.consume.2.fetched.size = max buffer.fetched.size (buffer.consume.1.index + 1) := by
  obtain ⟨token, rest, rfl⟩ := List.exists_cons_of_length_pos shown.terminated_tokens.length_pos
  have fetched : buffer.consume.2.fetched = buffer.index.2.fetched := by
    simp only [TokenBuffer.consume, TokenBuffer.index]
    split <;> rfl
  rw [fetched, shown.size_index, shown.consume.1, shown.index_eq.1]

end Shows

/-- The number of the token that an operation answers, or that its answer is taken from. Filling
answers none. -/
def answered? (buffer : TokenBuffer) : Query → Option Nat
  | .lookahead offset => some (buffer.lookahead offset).1.index
  | .lookaheadKind offset => some (buffer.lookahead offset).1.index
  | .consume => some buffer.consume.1.index
  | .index => some buffer.index.1
  | .fill => none

/-- An operation that answers a token fetches up to that token. -/
theorem Shows.size_reply {buffer : TokenBuffer} {tokens : List Token}
    (shown : buffer.Shows tokens) {query : Query} {number : Nat}
    (answered : buffer.answered? query = some number) :
    (buffer.reply query).2.fetched.size = max buffer.fetched.size (number + 1) := by
  cases query with
  | lookahead offset =>
    cases answered
    exact shown.size_lookahead offset
  | lookaheadKind offset =>
    cases answered
    exact shown.size_lookahead offset
  | consume =>
    cases answered
    exact shown.size_consume
  | index =>
    cases answered
    exact shown.size_index
  | fill => cases answered

/-! ## What has been fetched -/

/-- A buffer has fetched the beginning of what a source hands out up to its first end token, and has
asked it for nothing else. -/
structure Draws (source : TokenSource) (buffer : TokenBuffer) : Prop where
  /-- The source was asked for as many tokens as have been fetched. -/
  asked : buffer.source = source.skip buffer.fetched.size
  /-- What has been fetched and what is still to come are the tokens of the source. -/
  stock : buffer.stock = source.tokens

namespace Draws

variable {source : TokenSource} {buffer : TokenBuffer}

/-- From a fresh buffer nothing has been asked. -/
theorem ofSource (source : TokenSource) : Draws source (ofSource source) :=
  ⟨rfl, stock_ofSource source⟩

/-- The place in a buffer has nothing to do with what has been fetched. -/
theorem of_place (draws : Draws source buffer) (place : Nat) :
    Draws source { buffer with place } :=
  ⟨draws.asked, draws.stock⟩

/-- Fetching asks for one token more. -/
theorem fetch (draws : Draws source buffer) (going : buffer.isFilled = false) :
    Draws source buffer.fetch where
  asked := by
    rw [size_fetch, TokenSource.skip, ← draws.asked]
    rfl
  stock := (stock_fetch going).trans draws.stock

/-- Reaching a number asks for what is fetched. -/
theorem reach (draws : Draws source buffer) (number : Nat) :
    Draws source (buffer.reach number) := by
  fun_induction TokenBuffer.reach buffer number with
  | case1 buffer short ih => exact ih (draws.fetch short.2)
  | case2 buffer reached => exact draws

/-- Seeking the next visible token asks for what is fetched. -/
theorem nextVisible (draws : Draws source buffer) (number : Nat) :
    Draws source (buffer.nextVisible number).2 := by
  fun_induction TokenBuffer.nextVisible buffer number with
  | case1 buffer number reached absent => exact draws.reach number
  | case2 buffer number reached token held hidden ih => exact ih (draws.reach number)
  | case3 buffer number reached token held visible => exact draws.reach number

/-- Stepping over visible tokens asks for what is fetched. -/
theorem forward (draws : Draws source buffer) (number steps : Nat) :
    Draws source (buffer.forward number steps).2 := by
  induction steps generalizing buffer number with
  | zero => exact draws
  | succ steps ih =>
    rw [TokenBuffer.forward]
    split
    · exact draws
    · exact ih (draws.nextVisible _) _

/-- Every operation asks for what is fetched. -/
theorem reply (draws : Draws source buffer) (query : Query) :
    Draws source (buffer.reply query).2 := by
  have found := draws.nextVisible buffer.place
  cases query with
  | lookahead offset => exact found.forward _ _
  | lookaheadKind offset => exact found.forward _ _
  | consume =>
    change Draws source buffer.consume.2
    unfold TokenBuffer.consume
    dsimp only
    split
    · exact found
    · exact found.of_place _
  | index => exact found
  | fill => exact draws.reach _

/-- What has been fetched is the beginning of what the source hands out. -/
theorem front (draws : Draws source buffer) : buffer.fetched.toList <+: source.tokens := by
  rw [← draws.stock, TokenBuffer.stock]
  exact List.prefix_append _ _

/-- A filled buffer has fetched all that the source hands out. -/
theorem whole (draws : Draws source buffer) (filled : buffer.isFilled = true) :
    buffer.fetched.toList = source.tokens := by
  rw [← draws.stock, TokenBuffer.stock, if_pos filled, List.append_nil]

end Draws

/-- An operation keeps the tokens fetched before it. -/
theorem Draws.grows {source : TokenSource} {buffer : TokenBuffer} {tokens : List Token}
    (draws : Draws source buffer) (shown : buffer.Shows tokens) (query : Query) :
    buffer.fetched.toList <+: (buffer.reply query).2.fetched.toList := by
  have further := draws.reply query
  cases answered : buffer.answered? query with
  | some number =>
    have size := shown.size_reply answered
    apply List.prefix_of_prefix_length_le draws.front further.front
    simp only [Array.length_toList]
    omega
  | none =>
    cases query with
    | fill => exact further.whole buffer.isFilled_fill ▸ draws.front
    | lookahead offset => cases answered
    | lookaheadKind offset => cases answered
    | consume => cases answered
    | index => cases answered

/-! ## Sequences of operations -/

/-- The buffer after a sequence of operations. -/
def after (buffer : TokenBuffer) (queries : List Query) : TokenBuffer :=
  queries.foldl (fun buffer query => (buffer.reply query).2) buffer

/-- Operations on a buffer leave the end of what it has shown. -/
theorem Shows.after {buffer : TokenBuffer} {tokens : List Token}
    (shown : buffer.Shows tokens) (queries : List Query) :
    ∃ left, left <:+ tokens ∧ (buffer.after queries).Shows left := by
  induction queries generalizing buffer tokens with
  | nil => exact ⟨tokens, List.suffix_rfl, shown⟩
  | cons query queries ih =>
    have whole : buffer.Shows (tokens.drop 0) := shown
    obtain ⟨place, -, shown⟩ := whole.cursor_reply? query
    obtain ⟨left, further, shown⟩ := ih shown
    exact ⟨left, further.trans (List.drop_suffix place tokens), shown⟩

/-- A sequence of operations keeps the tokens fetched before it and asks for what is fetched. -/
theorem Draws.after {source : TokenSource} {buffer : TokenBuffer} {tokens : List Token}
    (draws : Draws source buffer) (shown : buffer.Shows tokens) (queries : List Query) :
    Draws source (buffer.after queries) ∧ (∃ rest, (buffer.after queries).Shows rest) ∧
      buffer.fetched.toList <+: (buffer.after queries).fetched.toList := by
  induction queries generalizing buffer tokens with
  | nil => exact ⟨draws, ⟨tokens, shown⟩, List.prefix_rfl⟩
  | cons query queries ih =>
    have whole : buffer.Shows (tokens.drop 0) := shown
    obtain ⟨place, -, left⟩ := whole.cursor_reply? query
    obtain ⟨drawn, rest, grown⟩ := ih (draws.reply query) left
    exact ⟨drawn, rest, (draws.grows shown query).trans grown⟩

/-- After any sequence of operations a token buffer has fetched the beginning of what its source
hands out up to the first end token, each token as it is handed out but for its number, and the
source has been asked for these tokens only. Further operations keep what has been fetched. Every
operation that answers a token leaves just the tokens up to that one fetched, if not more were
before, and filling the buffer leaves all of them up to the end token. -/
theorem fetches_on_demand (source : TokenSource) (queries : List Query) :
    let buffer := (ofSource source).after queries
    Terminated source.tokens ∧
      (∀ number (inside : number < source.tokens.length),
        source.tokens[number] = (source.handed number).number number) ∧
      buffer.fetched.toList <+: source.tokens ∧
      buffer.source = source.skip buffer.fetched.size ∧
      (∀ further, buffer.fetched.toList <+:
        ((ofSource source).after (queries ++ further)).fetched.toList) ∧
      (∀ query number, buffer.answered? query = some number →
        (buffer.reply query).2.fetched.size = max buffer.fetched.size (number + 1)) ∧
      buffer.fill.fetched.toList = source.tokens := by
  intro buffer
  obtain ⟨draws, ⟨tokens, shown⟩, -⟩ :=
    (Draws.ofSource source).after (shows_ofSource source) queries
  refine ⟨source.terminated_tokensFrom 0, fun number inside => ?_, draws.front, draws.asked,
    fun further => ?_, fun query number answered => shown.size_reply answered,
    (draws.reply .fill).whole buffer.isFilled_fill⟩
  · have handed := source.getElem_tokensFrom 0 number inside
    rwa [Nat.zero_add] at handed
  · have joined : (ofSource source).after (queries ++ further) = buffer.after further :=
      List.foldl_append
    rw [joined]
    exact (draws.after shown further).2.2

end TokenBuffer

end Conformance
