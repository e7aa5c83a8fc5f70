import Conformance.Proofs.Token.Stock

/-!
# Token buffers as cursors

What a client sees of a token buffer is a cursor in the list of the visible tokens of its source,
which ends with the first end token. Looking ahead answers a token of that list, consuming moves
the cursor unless it stands at the end, and nothing else moves it. The main statement says this of
every sequence of operations, and that none of them reads a number that has not been fetched.
-/

namespace Conformance

/-- The tokens of a source that parsers see: the visible ones, and the end token behind them. -/
def TokenSource.visible (source : TokenSource) : List Token :=
  source.tokens.filter Token.isSeen

/-- The kinds of the tokens that parsers see before the end token. -/
def TokenSource.kinds (source : TokenSource) : List Kind :=
  (source.visible.filter (!·.isEof)).map Token.kind

/-- Before a token of a terminated list there is no end token. -/
theorem Terminated.filter_append {before rest : List Token} {token : Token}
    (terminated : Terminated (before ++ token :: rest)) :
    (before ++ token :: rest).filter (!·.isEof) =
      before ++ (token :: rest).filter (!·.isEof) := by
  induction before with
  | nil => rfl
  | cons first before ih =>
    have going : first.isEof = false := by
      cases ends : first.isEof with
      | false => rfl
      | true => simpa using terminated.eq_singleton ends
    simp only [List.cons_append, List.filter_cons, going, Bool.not_false, ↓reduceIte]
    rw [ih (terminated.tail going), List.filter_cons]

namespace TokenBuffer

/-! ## What a buffer shows -/

/-- The tokens that parsers still see in a buffer, the end token included. -/
structure Shows (buffer : TokenBuffer) (tokens : List Token) : Prop where
  /-- The stock ends with its only end token. -/
  terminated : Terminated buffer.stock
  /-- Every token of the stock carries its own number. -/
  numbered : ∀ (number : Nat) (token : Token),
    buffer.stock[number]? = some token → token.index = number
  /-- The place is not behind the end token. -/
  inside : buffer.place < buffer.stock.length
  /-- The tokens are those visible from the place on. -/
  visible : buffer.visibleFrom buffer.place = tokens

/-- A fresh buffer shows what its source lets parsers see. -/
theorem shows_ofSource (source : TokenSource) : (ofSource source).Shows source.visible where
  terminated := by
    rw [stock_ofSource]
    exact source.terminated_tokensFrom 0
  numbered number token found := by
    rw [stock_ofSource] at found
    obtain ⟨within, same⟩ := List.getElem?_eq_some_iff.1 found
    have numbers := source.index_tokensFrom 0 number within
    rw [Nat.zero_add] at numbers
    exact same ▸ numbers
  inside := by
    rw [stock_ofSource]
    exact (source.terminated_tokensFrom 0).length_pos
  visible := by simp [visibleFrom, ofSource, TokenSource.visible, stock, isFilled,
    TokenSource.tokens]

namespace Shows

variable {buffer after : TokenBuffer} {token : Token} {tokens rest : List Token}

/-- Fetching does not change what a buffer shows. -/
theorem of_extends (shown : buffer.Shows tokens) (extension : buffer.Extends after) :
    after.Shows tokens where
  terminated := extension.stock ▸ shown.terminated
  numbered := extension.stock ▸ shown.numbered
  inside := by
    rw [extension.stock, extension.place]
    exact shown.inside
  visible := by
    rw [extension.place, extension.visibleFrom_eq]
    exact shown.visible

/-- The tokens shown end with their only end token. -/
theorem terminated_tokens (shown : buffer.Shows tokens) : Terminated tokens := by
  rw [← shown.visible]
  exact (shown.terminated.drop shown.inside).filter_isSeen

/-- No more tokens are shown than a buffer has room for behind its place. -/
theorem length_le (shown : buffer.Shows tokens) :
    tokens.length ≤ buffer.capacity - buffer.place := by
  have bound := buffer.length_stock_le
  calc
    tokens.length ≤ (buffer.stock.drop buffer.place).length := by
      rw [← shown.visible]
      exact List.length_filter_le _ _
    _ ≤ buffer.capacity - buffer.place := by
      rw [List.length_drop]
      omega

/-- Seeking from the place on answers the number of the first token shown, which is then held. -/
theorem nextVisible (shown : buffer.Shows (token :: rest)) :
    (buffer.nextVisible buffer.place).2.Holds (buffer.nextVisible buffer.place).1 token ∧
      buffer.visibleFrom ((buffer.nextVisible buffer.place).1 + 1) = rest := by
  obtain ⟨first, holds, same⟩ := nextVisible_holds shown.terminated shown.inside
  have extension := buffer.nextVisible_extends buffer.place
  have ahead := holds.visibleFrom_eq
  rw [extension.visibleFrom_eq, extension.visibleFrom_eq, ← same, shown.visible] at ahead
  injection ahead with first_eq rest_eq
  exact ⟨first_eq ▸ holds, rest_eq.symm⟩

/-- The number of the next visible token is the one it carries. -/
theorem index_eq (shown : buffer.Shows (token :: rest)) :
    buffer.index.1 = token.index ∧ buffer.index.2.Shows (token :: rest) := by
  have extended := shown.of_extends (buffer.nextVisible_extends buffer.place)
  exact ⟨(extended.numbered _ _ shown.nextVisible.1.getElem?_stock).symm, extended⟩

/-- Consuming answers the first token shown and leaves the others, the end token staying. -/
theorem consume (shown : buffer.Shows (token :: rest)) :
    buffer.consume.1 = token ∧
      buffer.consume.2.Shows (if token.isEof then token :: rest else rest) := by
  obtain ⟨holds, others⟩ := shown.nextVisible
  have extension := buffer.nextVisible_extends buffer.place
  have extended := shown.of_extends extension
  have found := holds.token_eq
  refine ⟨found, ?_⟩
  simp only [TokenBuffer.consume, found]
  cases ends : token.isEof with
  | true => exact extended
  | false =>
    obtain ⟨within, same⟩ := List.getElem?_eq_some_iff.1 holds.getElem?_stock
    have ending := extended.terminated.isEof_getElem within
    rw [same, ends] at ending
    exact {
      terminated := extended.terminated
      numbered := extended.numbered
      inside := by
        have : (buffer.nextVisible buffer.place).1 + 1 ≠
            (buffer.nextVisible buffer.place).2.stock.length := fun last => by
          simpa using ending.2 last
        exact Nat.lt_of_le_of_ne within this
      visible := (extension.visibleFrom_eq _).trans others }

end Shows

/-- The kinds of a source are those before any of its visible tokens and those from that one on. -/
theorem kinds_of_visible {source : TokenSource} {before rest : List Token} {token : Token}
    (split : source.visible = before ++ token :: rest) :
    source.kinds =
      before.map Token.kind ++ ((token :: rest).filter (!·.isEof)).map Token.kind := by
  have terminated := (shows_ofSource source).terminated_tokens
  rw [split] at terminated
  rw [TokenSource.kinds, split, terminated.filter_append, List.map_append]

/-- Stepping over visible tokens fetches and nothing else. -/
theorem forward_extends (buffer : TokenBuffer) (number steps : Nat) :
    Extends buffer (buffer.forward number steps).2 := by
  induction steps generalizing buffer number with
  | zero => exact Extends.refl buffer
  | succ steps ih =>
    rw [forward]
    split
    · exact Extends.refl buffer
    · exact (buffer.nextVisible_extends (number + 1)).trans (ih _ _)

/-- From a token held, stepping arrives at the token that many visible tokens further on, or at the
end token when there are fewer. -/
theorem forward_holds {buffer : TokenBuffer} (terminated : Terminated buffer.stock)
    {number : Nat} {token : Token} (holds : buffer.Holds number token) (steps : Nat) :
    ∃ found, (buffer.forward number steps).2.Holds (buffer.forward number steps).1 found ∧
      (buffer.visibleFrom number)[min steps ((buffer.visibleFrom number).length - 1)]? =
        some found := by
  induction steps generalizing buffer number token with
  | zero => exact ⟨token, holds, by simp [holds.visibleFrom_eq]⟩
  | succ steps ih =>
    obtain ⟨within, same⟩ := List.getElem?_eq_some_iff.1 holds.getElem?_stock
    have ending := terminated.isEof_getElem within
    rw [same] at ending
    have visible := holds.visibleFrom_eq
    rw [forward, holds.token_eq]
    cases ends : token.isEof with
    | true =>
      have last := ending.1 ends
      have rest : buffer.visibleFrom (number + 1) = [] := by
        rw [last]
        simp [visibleFrom]
      exact ⟨token, holds, by simp [visible, rest]⟩
    | false =>
      have further : number + 1 < buffer.stock.length := by
        have : number + 1 ≠ buffer.stock.length := fun last => by simp [ending.2 last] at ends
        omega
      have extension := buffer.nextVisible_extends (number + 1)
      obtain ⟨next, nextHolds, sees⟩ := nextVisible_holds terminated further
      obtain ⟨found, foundHolds, place⟩ := ih (extension.stock ▸ terminated) nextHolds
      refine ⟨found, foundHolds, ?_⟩
      rw [extension.visibleFrom_eq, ← sees] at place
      have more : 0 < (buffer.visibleFrom (number + 1)).length := by
        rw [sees, ← extension.visibleFrom_eq, nextHolds.visibleFrom_eq]
        exact Nat.succ_pos _
      have offset : min (steps + 1) ((token :: buffer.visibleFrom (number + 1)).length - 1) =
          min steps ((buffer.visibleFrom (number + 1)).length - 1) + 1 := by
        simp only [List.length_cons]
        omega
      rw [visible, offset, List.getElem?_cons_succ]
      exact place

namespace Shows

variable {buffer : TokenBuffer} {token : Token} {tokens rest : List Token}

/-- Looking ahead answers the token shown at its offset, or the end token when there are fewer, and
leaves what is shown. -/
theorem lookahead (shown : buffer.Shows tokens) (offset : Nat) :
    tokens[min (offset - 1) (tokens.length - 1)]? = some (buffer.lookahead offset).1 ∧
      (buffer.lookahead offset).2.Shows tokens := by
  obtain ⟨token, rest, rfl⟩ := List.exists_cons_of_length_pos shown.terminated_tokens.length_pos
  obtain ⟨holds, others⟩ := shown.nextVisible
  have extension := buffer.nextVisible_extends buffer.place
  have extended := shown.of_extends extension
  obtain ⟨found, foundHolds, place⟩ := forward_holds extended.terminated holds (offset - 1)
  have visible := holds.visibleFrom_eq
  rw [extension.visibleFrom_eq (_ + 1), others] at visible
  rw [visible] at place
  refine ⟨?_, extended.of_extends (forward_extends _ _ _)⟩
  rw [place]
  exact congrArg some foundHolds.token_eq.symm

end Shows

/-! ## Sequences of operations -/

/-- An operation of a client on a token buffer. -/
inductive Query where
  /-- Look at the visible token an offset ahead. -/
  | lookahead (offset : Nat)
  /-- Look at the kind of that token. -/
  | lookaheadKind (offset : Nat)
  /-- Consume the next visible token. -/
  | consume
  /-- Ask for the number of the next visible token. -/
  | index
  /-- Fetch every token up to the end token. -/
  | fill
  deriving Repr, DecidableEq

/-- The answer to an operation. -/
inductive Reply where
  /-- The token looked at. -/
  | ahead (token : Token)
  /-- The kind looked at. -/
  | aheadKind (kind : Kind)
  /-- The token consumed, or the end token in its place. -/
  | consumed (token : Token)
  /-- The number asked for. -/
  | number (number : Nat)
  /-- Whether the end token has been fetched. -/
  | filled (complete : Bool)
  deriving Repr, DecidableEq

/-- The token that a reply hands over. -/
def Reply.consumed? : Reply → Option Token
  | .consumed token => some token
  | _ => none

/-- The answer of a buffer to an operation, and the buffer after it. -/
def reply (buffer : TokenBuffer) : Query → Reply × TokenBuffer
  | .lookahead offset => (.ahead (buffer.lookahead offset).1, (buffer.lookahead offset).2)
  | .lookaheadKind offset =>
    (.aheadKind (buffer.lookahead offset).1.kind, (buffer.lookahead offset).2)
  | .consume => (.consumed buffer.consume.1, buffer.consume.2)
  | .index => (.number buffer.index.1, buffer.index.2)
  | .fill => (.filled buffer.fill.isFilled, buffer.fill)

/-- The answers of a buffer to a sequence of operations. -/
def replies (buffer : TokenBuffer) : List Query → List Reply
  | [] => []
  | query :: queries => (buffer.reply query).1 :: (buffer.reply query).2.replies queries

/-! ### The same operations with checked reads -/

/-- Stepping over visible tokens, where every number read has to have been fetched. -/
def forward? (buffer : TokenBuffer) (number : Nat) : Nat → Option (Nat × TokenBuffer)
  | 0 => some (number, buffer)
  | steps + 1 => do
    let token ← buffer.fetched[number]?
    if token.isEof then some (number, buffer)
    else
      let (later, reached) := buffer.nextVisible (number + 1)
      reached.forward? later steps

/-- Looking ahead with checked reads. -/
def lookahead? (buffer : TokenBuffer) (offset : Nat) : Option (Token × TokenBuffer) := do
  let (first, reached) := buffer.nextVisible buffer.place
  let (number, reached) ← reached.forward? first (offset - 1)
  let token ← reached.fetched[number]?
  return (token, reached)

/-- Consuming with checked reads. -/
def consume? (buffer : TokenBuffer) : Option (Token × TokenBuffer) := do
  let (number, reached) := buffer.nextVisible buffer.place
  let token ← reached.fetched[number]?
  return (token, if token.isEof then reached else { reached with place := number + 1 })

/-- The answer of a buffer to an operation with checked reads. -/
def reply? (buffer : TokenBuffer) : Query → Option (Reply × TokenBuffer)
  | .lookahead offset => do
    let (token, after) ← buffer.lookahead? offset
    return (.ahead token, after)
  | .lookaheadKind offset => do
    let (token, after) ← buffer.lookahead? offset
    return (.aheadKind token.kind, after)
  | .consume => do
    let (token, after) ← buffer.consume?
    return (.consumed token, after)
  | .index => some (.number buffer.index.1, buffer.index.2)
  | .fill => some (.filled buffer.fill.isFilled, buffer.fill)

/-- The answers of a buffer to a sequence of operations with checked reads. -/
def replies? (buffer : TokenBuffer) : List Query → Option (List Reply)
  | [] => some []
  | query :: queries => do
    let (reply, after) ← buffer.reply? query
    let further ← after.replies? queries
    return reply :: further

/-- Stepping from a token held reads only numbers that have been fetched. -/
theorem forward?_eq {buffer : TokenBuffer} (terminated : Terminated buffer.stock) {number : Nat}
    {token : Token} (holds : buffer.Holds number token) (steps : Nat) :
    buffer.forward? number steps = some (buffer.forward number steps) := by
  induction steps generalizing buffer number token with
  | zero => rfl
  | succ steps ih =>
    obtain ⟨within, same⟩ := List.getElem?_eq_some_iff.1 holds.getElem?_stock
    have ending := terminated.isEof_getElem within
    rw [same] at ending
    simp only [forward?, forward, holds.held, holds.token_eq, Option.bind_eq_bind,
      Option.bind_some]
    cases ends : token.isEof with
    | true => rfl
    | false =>
      have further : number + 1 < buffer.stock.length := by
        have : number + 1 ≠ buffer.stock.length := fun last => by simp [ending.2 last] at ends
        omega
      have extension := buffer.nextVisible_extends (number + 1)
      obtain ⟨next, nextHolds, _⟩ := nextVisible_holds terminated further
      exact ih (extension.stock ▸ terminated) nextHolds

namespace Shows

variable {buffer : TokenBuffer} {tokens : List Token}

/-- Looking ahead reads only numbers that have been fetched. -/
theorem lookahead?_eq (shown : buffer.Shows tokens) (offset : Nat) :
    buffer.lookahead? offset = some (buffer.lookahead offset) := by
  obtain ⟨token, rest, rfl⟩ := List.exists_cons_of_length_pos shown.terminated_tokens.length_pos
  have extended := shown.of_extends (buffer.nextVisible_extends buffer.place)
  have holds := shown.nextVisible.1
  obtain ⟨found, foundHolds, _⟩ := forward_holds extended.terminated holds (offset - 1)
  simp only [lookahead?, TokenBuffer.lookahead, forward?_eq extended.terminated holds,
    Option.bind_eq_bind, Option.bind_some, foundHolds.held, foundHolds.token_eq]
  rfl

/-- Consuming reads only numbers that have been fetched. -/
theorem consume?_eq (shown : buffer.Shows tokens) : buffer.consume? = some buffer.consume := by
  obtain ⟨token, rest, rfl⟩ := List.exists_cons_of_length_pos shown.terminated_tokens.length_pos
  have holds := shown.nextVisible.1
  simp only [consume?, TokenBuffer.consume, holds.held, holds.token_eq, Option.bind_eq_bind,
    Option.bind_some]
  rfl

/-- Every operation reads only numbers that have been fetched. -/
theorem reply?_eq (shown : buffer.Shows tokens) (query : Query) :
    buffer.reply? query = some (buffer.reply query) := by
  cases query with
  | lookahead offset => simp [reply?, reply, shown.lookahead?_eq]
  | lookaheadKind offset => simp [reply?, reply, shown.lookahead?_eq]
  | consume => simp [reply?, reply, shown.consume?_eq]
  | index => rfl
  | fill => rfl

end Shows

end TokenBuffer

/-! ## The cursor -/

namespace Cursor

open TokenBuffer (Query Reply)

/-- The token that a cursor in a list sees an offset ahead; behind the last token it sees that. -/
def ahead? (tokens : List Token) (place offset : Nat) : Option Token :=
  tokens[min (place + max offset 1 - 1) (tokens.length - 1)]?

/-- The answer of a cursor to an operation, and its place after it. -/
def reply? (tokens : List Token) (place : Nat) : Query → Option (Reply × Nat)
  | .lookahead offset => do
    let token ← ahead? tokens place offset
    return (.ahead token, place)
  | .lookaheadKind offset => do
    let token ← ahead? tokens place offset
    return (.aheadKind token.kind, place)
  | .consume => do
    let token ← tokens[place]?
    return (.consumed token, if token.isEof then place else place + 1)
  | .index => do
    let token ← tokens[place]?
    return (.number token.index, place)
  | .fill => some (.filled true, place)

/-- The answers of a cursor to a sequence of operations. -/
def replies? (tokens : List Token) (place : Nat) : List Query → Option (List Reply)
  | [] => some []
  | query :: queries => do
    let (reply, after) ← reply? tokens place query
    let further ← replies? tokens after queries
    return reply :: further

end Cursor

namespace TokenBuffer.Shows

variable {buffer : TokenBuffer} {tokens : List Token} {place : Nat}

/-- Looking ahead in a buffer that shows a list from a place on is what a cursor does there. -/
theorem ahead?_eq (shown : buffer.Shows (tokens.drop place)) (offset : Nat) :
    Cursor.ahead? tokens place offset = some (buffer.lookahead offset).1 := by
  have more := shown.terminated_tokens.length_pos
  rw [List.length_drop] at more
  have found := (shown.lookahead offset).1
  rw [List.getElem?_drop, List.length_drop] at found
  rw [Cursor.ahead?, ← found]
  congr 1
  omega

/-- One operation: the buffer answers as the cursor does, and shows the list from the cursor's next
place on. -/
theorem cursor_reply? (shown : buffer.Shows (tokens.drop place)) (query : Query) :
    ∃ after, Cursor.reply? tokens place query = some ((buffer.reply query).1, after) ∧
      (buffer.reply query).2.Shows (tokens.drop after) := by
  obtain ⟨token, rest, split⟩ := List.exists_cons_of_length_pos shown.terminated_tokens.length_pos
  have front : tokens[place]? = some token := by
    rw [← List.head?_drop, split]
    rfl
  cases query with
  | lookahead offset =>
    refine ⟨place, ?_, (shown.lookahead offset).2⟩
    simp [Cursor.reply?, reply, shown.ahead?_eq offset]
  | lookaheadKind offset =>
    refine ⟨place, ?_, (shown.lookahead offset).2⟩
    simp [Cursor.reply?, reply, shown.ahead?_eq offset]
  | consume =>
    obtain ⟨found, after⟩ := (split ▸ shown).consume
    refine ⟨if token.isEof then place else place + 1, ?_, ?_⟩
    · simp [Cursor.reply?, reply, front, found]
    · have next : tokens.drop (place + 1) = rest := by
        rw [← List.tail_drop, split]
        rfl
      cases ends : token.isEof with
      | true => simpa [reply, ends, split] using after
      | false => simpa [reply, ends, next] using after
  | index =>
    obtain ⟨found, after⟩ := (split ▸ shown).index_eq
    refine ⟨place, ?_, split ▸ after⟩
    simp [Cursor.reply?, reply, front, found]
  | fill =>
    refine ⟨place, ?_, shown.of_extends (buffer.reach_extends _)⟩
    simp [Cursor.reply?, reply, buffer.isFilled_fill]

/-- A sequence of operations: the buffer answers as the cursor does, and every read is in order. -/
theorem replies_eq (shown : buffer.Shows (tokens.drop place)) (queries : List Query) :
    Cursor.replies? tokens place queries = some (buffer.replies queries) ∧
      buffer.replies? queries = some (buffer.replies queries) := by
  induction queries generalizing buffer place with
  | nil => exact ⟨rfl, rfl⟩
  | cons query queries ih =>
    obtain ⟨after, answer, shownAfter⟩ := shown.cursor_reply? query
    obtain ⟨cursor, checked⟩ := ih shownAfter
    constructor
    · simp [Cursor.replies?, replies, answer, cursor]
    · simp [replies?, replies, shown.reply?_eq query, checked]

/-- The tokens consumed, end tokens aside, are the first ones shown, as many as were asked for. -/
theorem consumed_replies (shown : buffer.Shows tokens) (queries : List Query) :
    ((buffer.replies queries).filterMap Reply.consumed?).filter (!·.isEof) =
      (tokens.filter (!·.isEof)).take (queries.count .consume) := by
  induction queries generalizing buffer tokens with
  | nil => simp [replies]
  | cons query queries ih =>
    cases query with
    | lookahead offset =>
      simpa [replies, reply, List.filterMap_cons, Reply.consumed?] using
        ih (shown.lookahead offset).2
    | lookaheadKind offset =>
      simpa [replies, reply, List.filterMap_cons, Reply.consumed?] using
        ih (shown.lookahead offset).2
    | index =>
      have extended : buffer.index.2.Shows tokens :=
        shown.of_extends (buffer.nextVisible_extends buffer.place)
      simpa [replies, reply, List.filterMap_cons, Reply.consumed?] using ih extended
    | fill =>
      have extended : buffer.fill.Shows tokens :=
        shown.of_extends (buffer.reach_extends buffer.capacity)
      simpa [replies, reply, List.filterMap_cons, Reply.consumed?] using ih extended
    | consume =>
      obtain ⟨token, rest, rfl⟩ :=
        List.exists_cons_of_length_pos shown.terminated_tokens.length_pos
      obtain ⟨found, after⟩ := shown.consume
      have further := ih after
      cases ends : token.isEof with
      | true =>
        have alone := shown.terminated_tokens.eq_singleton ends
        subst alone
        simpa [replies, reply, Reply.consumed?, found, ends] using further
      | false =>
        simpa [replies, reply, Reply.consumed?, found, ends] using further

end TokenBuffer.Shows

/-- A token buffer over any source answers every sequence of operations as a cursor in the list of
the visible tokens does that starts at the front. No operation reads a number that has not been
fetched, and the tokens consumed are the visible tokens from the first one on, each once. -/
theorem TokenBuffer.replies_refine_cursor (source : TokenSource) (queries : List Query) :
    Cursor.replies? source.visible 0 queries = some ((ofSource source).replies queries) ∧
      (ofSource source).replies? queries = some ((ofSource source).replies queries) ∧
      (((ofSource source).replies queries).filterMap Reply.consumed?).filter (!·.isEof) =
        (source.visible.filter (!·.isEof)).take (queries.count .consume) := by
  have shown : (ofSource source).Shows (source.visible.drop 0) := shows_ofSource source
  obtain ⟨cursor, checked⟩ := shown.replies_eq queries
  exact ⟨cursor, checked, shown.consumed_replies queries⟩

end Conformance
