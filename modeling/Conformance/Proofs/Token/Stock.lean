import Conformance.Token.Buffer

/-!
# The stock of a token buffer

A buffer fetches its tokens late, but which tokens they will be is settled from the start: those
already fetched, and those the source still hands out up to its first end token. That list is the
stock of the buffer. Every operation keeps the stock and moves at most the place in it, so a
buffer is understood as a place in a fixed list, and what it shows from there are the tokens of the
list that are visible.
-/

namespace Conformance

/-! ## Terminated lists -/

/-- The last token ends the input and no other token does. -/
inductive Terminated : List Token → Prop
  /-- The end token alone. -/
  | last {token : Token} (ends : token.isEof = true) : Terminated [token]
  /-- A token before the end. -/
  | cons {token : Token} {rest : List Token} (going : token.isEof = false)
      (terminated : Terminated rest) : Terminated (token :: rest)

/-- Parsers see the token: it is visible, or it ends the input. -/
def Token.isSeen (token : Token) : Bool :=
  token.isEof || !token.isHidden

namespace Terminated

/-- A terminated list holds its end token. -/
theorem length_pos {tokens : List Token} (terminated : Terminated tokens) : 0 < tokens.length := by
  cases terminated <;> simp

/-- What is left of a terminated list before its end is terminated. -/
theorem drop {tokens : List Token} (terminated : Terminated tokens) {number : Nat}
    (inside : number < tokens.length) : Terminated (tokens.drop number) := by
  induction terminated generalizing number with
  | last ends =>
    have first : number = 0 := by simpa using inside
    simpa [first] using Terminated.last ends
  | cons going terminated ih =>
    cases number with
    | zero => exact Terminated.cons going terminated
    | succ number => exact ih (by simpa using inside)

/-- Leaving out the hidden tokens keeps a list terminated. -/
theorem filter_isSeen {tokens : List Token} (terminated : Terminated tokens) :
    Terminated (tokens.filter Token.isSeen) := by
  induction terminated with
  | last ends => simpa [Token.isSeen, ends] using Terminated.last ends
  | @cons token rest going terminated ih =>
    cases seen : token.isSeen with
    | false => simpa [List.filter_cons, seen] using ih
    | true => simpa [List.filter_cons, seen] using Terminated.cons going ih

/-- A list that starts with the end token holds nothing else. -/
theorem eq_singleton {token : Token} {rest : List Token} (terminated : Terminated (token :: rest))
    (ends : token.isEof = true) : rest = [] := by
  cases terminated with
  | last => rfl
  | cons going => simp [ends] at going

/-- After a token that does not end the input the list goes on. -/
theorem tail {token : Token} {rest : List Token} (terminated : Terminated (token :: rest))
    (going : token.isEof = false) : Terminated rest := by
  cases terminated with
  | last ends => simp [ends] at going
  | cons _ terminated => exact terminated

/-- The end token stands at the last number. -/
theorem isEof_getElem {tokens : List Token} (terminated : Terminated tokens) {number : Nat}
    (inside : number < tokens.length) :
    tokens[number].isEof = true ↔ number + 1 = tokens.length := by
  induction terminated generalizing number with
  | last ends =>
    have first : number = 0 := by simpa using inside
    simpa [first] using ends
  | cons going terminated ih =>
    cases number with
    | zero =>
      have more := terminated.length_pos
      simp only [List.getElem_cons_zero, going, List.length_cons]
      constructor
      · intro impossible
        cases impossible
      · intro short
        omega
    | succ number => simpa using ih (by simpa using inside)

end Terminated

/-! ## The tokens of a source -/

/-- The tokens that a source hands out up to its first end token, numbered from `number` on. -/
def TokenSource.tokensFrom (source : TokenSource) (number : Nat) : List Token :=
  if source.next.1.isEof then [source.next.1.number number]
  else source.next.1.number number :: source.next.2.tokensFrom (number + 1)
termination_by source.remaining
decreasing_by
  rename_i going
  exact TokenSource.remaining_next_lt (by simpa using going)

/-- The tokens of a source up to its first end token, numbered from zero on. -/
def TokenSource.tokens (source : TokenSource) : List Token :=
  source.tokensFrom 0

namespace TokenSource

/-- A source ends with its first end token. -/
theorem terminated_tokensFrom (source : TokenSource) (number : Nat) :
    Terminated (source.tokensFrom number) := by
  fun_induction tokensFrom source number with
  | case1 source number ends => exact Terminated.last (by simpa using ends)
  | case2 source number going ih => exact Terminated.cons (by simpa using going) ih

/-- The tokens carry consecutive numbers. -/
theorem index_tokensFrom (source : TokenSource) (number offset : Nat)
    (inside : offset < (source.tokensFrom number).length) :
    (source.tokensFrom number)[offset].index = number + offset := by
  fun_induction tokensFrom source number generalizing offset with
  | case1 source number ends =>
    have first : offset = 0 := by simpa using inside
    simp [first, Token.number]
  | case2 source number going ih =>
    cases offset with
    | zero => simp [Token.number]
    | succ offset =>
      have further := ih offset (by simpa using inside)
      simp only [List.getElem_cons_succ, further]
      omega

/-- The tokens of a source are no more than its bound allows. -/
theorem length_tokensFrom_le (source : TokenSource) (number : Nat) :
    (source.tokensFrom number).length ≤ source.remaining + 1 := by
  fun_induction tokensFrom source number with
  | case1 source number ends => simp
  | case2 source number going ih =>
    have closer : source.next.2.remaining < source.remaining :=
      remaining_next_lt (by simpa using going)
    simp only [List.length_cons]
    omega

/-- A script hands out any list that ends with its first end token, numbered, and nothing of what
follows it. So the sources hand out all such lists. -/
theorem tokensFrom_script (name : String) {tokens : List Token} (terminated : Terminated tokens)
    (further : List Token) (number : Nat) :
    (script name (tokens ++ further)).tokensFrom number =
      tokens.mapIdx fun offset token => token.number (number + offset) := by
  induction terminated generalizing number with
  | last ends =>
    rw [tokensFrom]
    simp [next, ends]
  | cons going terminated ih =>
    rw [tokensFrom]
    simp [next, going, List.mapIdx_cons, ih, Nat.add_comm 1, Nat.add_assoc]

end TokenSource

/-! ## The stock -/

namespace TokenBuffer

/-- The tokens that a buffer will ever hold, fetched or not. -/
def stock (buffer : TokenBuffer) : List Token :=
  buffer.fetched.toList ++
    if buffer.isFilled then [] else buffer.source.tokensFrom buffer.fetched.size

/-- The stock of a fresh buffer is what its source hands out. -/
@[simp] theorem stock_ofSource (source : TokenSource) :
    (ofSource source).stock = source.tokens := by
  simp [stock, ofSource, isFilled, TokenSource.tokens]

/-- Fetching moves a token of the stock into the buffer. -/
theorem stock_fetch {buffer : TokenBuffer} (going : buffer.isFilled = false) :
    buffer.fetch.stock = buffer.stock := by
  have filled : buffer.fetch.isFilled = buffer.source.next.1.isEof := by simp [isFilled, fetch]
  have further : buffer.source.tokensFrom buffer.fetched.size =
      buffer.source.next.1.number buffer.fetched.size ::
        if buffer.source.next.1.isEof then []
        else buffer.source.next.2.tokensFrom (buffer.fetched.size + 1) := by
    rw [TokenSource.tokensFrom]
    split <;> rfl
  simp only [stock, filled, going, Bool.false_eq_true, ↓reduceIte, further]
  simp [fetch]

/-- The stock starts with what has been fetched. -/
theorem getElem?_stock {buffer : TokenBuffer} {number : Nat}
    (held : number < buffer.fetched.size) : buffer.stock[number]? = buffer.fetched[number]? := by
  simp [stock, List.getElem?_append_left, held]

/-- A filled buffer has fetched its whole stock. -/
theorem length_stock_of_isFilled {buffer : TokenBuffer} (filled : buffer.isFilled = true) :
    buffer.stock.length = buffer.fetched.size := by
  simp [stock, filled]

/-- The capacity of a buffer is no less than its stock. -/
theorem length_stock_le (buffer : TokenBuffer) : buffer.stock.length ≤ buffer.capacity := by
  unfold stock capacity
  split
  · simp
  · have bound := buffer.source.length_tokensFrom_le buffer.fetched.size
    simp only [List.length_append, Array.length_toList]
    omega

/-- One buffer comes from another by fetching alone. -/
structure Extends (before after : TokenBuffer) : Prop where
  /-- The stock is the same. -/
  stock : after.stock = before.stock
  /-- The place is the same. -/
  place : after.place = before.place

/-- A buffer comes from itself without fetching. -/
theorem Extends.refl (buffer : TokenBuffer) : Extends buffer buffer :=
  ⟨rfl, rfl⟩

/-- Fetching can go on. -/
theorem Extends.trans {first second third : TokenBuffer} (left : Extends first second)
    (right : Extends second third) : Extends first third :=
  ⟨right.stock.trans left.stock, right.place.trans left.place⟩

/-- Reaching a number fetches and nothing else. -/
theorem reach_extends (buffer : TokenBuffer) (number : Nat) :
    Extends buffer (buffer.reach number) := by
  fun_induction reach buffer number with
  | case1 buffer short ih => exact Extends.trans ⟨stock_fetch short.2, rfl⟩ ih
  | case2 buffer reached => exact Extends.refl buffer

/-- A number that is not reached lies behind the end token. -/
theorem lt_size_reach_or_isFilled (buffer : TokenBuffer) (number : Nat) :
    number < (buffer.reach number).fetched.size ∨ (buffer.reach number).isFilled = true := by
  fun_induction reach buffer number with
  | case1 buffer short ih => exact ih
  | case2 buffer reached =>
    cases filled : buffer.isFilled with
    | true => exact Or.inr rfl
    | false =>
      have held : ¬ buffer.fetched.size ≤ number := fun short => reached ⟨short, filled⟩
      exact Or.inl (by omega)

/-- A number inside the stock is reached. -/
theorem lt_size_reach {buffer : TokenBuffer} {number : Nat}
    (inside : number < buffer.stock.length) :
    number < (buffer.reach number).fetched.size := by
  rcases buffer.lt_size_reach_or_isFilled number with held | filled
  · exact held
  · have whole := length_stock_of_isFilled filled
    rw [(buffer.reach_extends number).stock] at whole
    omega

/-- Filling a buffer fetches its whole stock. -/
theorem isFilled_fill (buffer : TokenBuffer) : buffer.fill.isFilled = true := by
  rcases buffer.lt_size_reach_or_isFilled buffer.capacity with held | filled
  · have bound := size_le_capacity (buffer.reach buffer.capacity)
    have shrunk := capacity_reach_le buffer buffer.capacity
    omega
  · exact filled

/-! ## The visible tokens from a number on -/

/-- The tokens of the stock from a number on that parsers see. -/
def visibleFrom (buffer : TokenBuffer) (number : Nat) : List Token :=
  (buffer.stock.drop number).filter Token.isSeen

/-- A buffer has fetched a token that parsers see, under a number. -/
structure Holds (buffer : TokenBuffer) (number : Nat) (token : Token) : Prop where
  /-- The token has been fetched. -/
  held : buffer.fetched[number]? = some token
  /-- Parsers see it. -/
  seen : token.isSeen = true

namespace Holds

/-- A token held is the first one seen from its number on. -/
theorem visibleFrom_eq {buffer : TokenBuffer} {number : Nat} {token : Token}
    (holds : buffer.Holds number token) :
    buffer.visibleFrom number = token :: buffer.visibleFrom (number + 1) := by
  obtain ⟨inside, _⟩ := Array.getElem?_eq_some_iff.1 holds.held
  have found := (getElem?_stock inside).trans holds.held
  obtain ⟨within, same⟩ := List.getElem?_eq_some_iff.1 found
  rw [visibleFrom, List.drop_eq_getElem_cons within, same, List.filter_cons, holds.seen]
  rfl

/-- Reading the number of a token held gives the token. -/
theorem token_eq {buffer : TokenBuffer} {number : Nat} {token : Token}
    (holds : buffer.Holds number token) : buffer.token number = token := by
  simp [TokenBuffer.token, holds.held]

/-- A token held lies inside the stock. -/
theorem getElem?_stock {buffer : TokenBuffer} {number : Nat} {token : Token}
    (holds : buffer.Holds number token) : buffer.stock[number]? = some token := by
  obtain ⟨inside, _⟩ := Array.getElem?_eq_some_iff.1 holds.held
  exact (TokenBuffer.getElem?_stock inside).trans holds.held

end Holds

/-- Seeking the next visible token fetches and nothing else. -/
theorem nextVisible_extends (buffer : TokenBuffer) (number : Nat) :
    Extends buffer (buffer.nextVisible number).2 := by
  fun_induction nextVisible buffer number with
  | case1 buffer number reached held => exact buffer.reach_extends number
  | case2 buffer number reached token held hidden ih =>
    exact (buffer.reach_extends number).trans ih
  | case3 buffer number reached token held visible => exact buffer.reach_extends number

/-- What is visible depends on the stock only. -/
theorem Extends.visibleFrom_eq {before after : TokenBuffer} (extension : Extends before after)
    (number : Nat) : after.visibleFrom number = before.visibleFrom number := by
  simp only [visibleFrom, extension.stock]

/-- A filled buffer reaches every number as it is. -/
theorem reach_of_isFilled {buffer : TokenBuffer} (filled : buffer.isFilled = true) (number : Nat) :
    buffer.reach number = buffer := by
  rw [reach]
  simp [filled]

/-- A buffer that holds its whole stock is filled. -/
theorem isFilled_of_length_stock_le {buffer : TokenBuffer}
    (whole : buffer.stock.length ≤ buffer.fetched.size) : buffer.isFilled = true := by
  cases filled : buffer.isFilled with
  | true => rfl
  | false =>
    have more := (buffer.source.terminated_tokensFrom buffer.fetched.size).length_pos
    simp only [stock, filled, Bool.false_eq_true, ↓reduceIte, List.length_append,
      Array.length_toList] at whole
    omega

/-- Behind the last token of a filled buffer, seeking falls back on that token. -/
theorem nextVisible_of_isFilled {buffer : TokenBuffer} (filled : buffer.isFilled = true)
    {number : Nat} (behind : buffer.fetched.size ≤ number) :
    buffer.nextVisible number = (buffer.fetched.size - 1, buffer) := by
  have absent : buffer.fetched[number]? = none := by simpa using behind
  unfold nextVisible
  rw [reach_of_isFilled filled]
  simp only
  split
  · rfl
  · rename_i token held
    simp [absent] at held

/-- A token of the stock that parsers do not see leaves what is visible unchanged. -/
theorem visibleFrom_succ_of_not_isSeen {buffer : TokenBuffer} {number : Nat} {token : Token}
    (found : buffer.stock[number]? = some token) (unseen : token.isSeen = false) :
    buffer.visibleFrom (number + 1) = buffer.visibleFrom number := by
  obtain ⟨within, same⟩ := List.getElem?_eq_some_iff.1 found
  simp only [visibleFrom]
  rw [List.drop_eq_getElem_cons within, same, List.filter_cons, unseen]
  rfl

/-- Behind the end token, seeking falls back on it. -/
theorem nextVisible_behind_end {buffer : TokenBuffer} (terminated : Terminated buffer.stock)
    {number : Nat} {token : Token} (held : buffer.fetched[number]? = some token)
    (ends : token.isEof = true) : buffer.nextVisible (number + 1) = (number, buffer) := by
  obtain ⟨inside, _⟩ := Array.getElem?_eq_some_iff.1 held
  have found := (getElem?_stock inside).trans held
  obtain ⟨within, same⟩ := List.getElem?_eq_some_iff.1 found
  have last : number + 1 = buffer.stock.length :=
    (terminated.isEof_getElem within).1 (same ▸ ends)
  have filled : buffer.isFilled = true := isFilled_of_length_stock_le (last ▸ inside)
  have whole := length_stock_of_isFilled filled
  rw [nextVisible_of_isFilled filled (by omega)]
  congr 1
  omega

/-- Seeking from a number inside the stock answers a token that the buffer then holds, the first
one visible from that number on. Behind a hidden end token, it falls back on that token. -/
theorem nextVisible_holds {buffer : TokenBuffer} (terminated : Terminated buffer.stock)
    {number : Nat} (inside : number < buffer.stock.length) :
    ∃ token, (buffer.nextVisible number).2.Holds (buffer.nextVisible number).1 token ∧
      buffer.visibleFrom number = buffer.visibleFrom (buffer.nextVisible number).1 := by
  fun_induction nextVisible buffer number with
  | case1 buffer number reached absent =>
    have held : number < reached.fetched.size := lt_size_reach inside
    rw [Array.getElem?_eq_none_iff] at absent
    omega
  | case3 buffer number reached token held visible =>
    refine ⟨token, ⟨held, ?_⟩, rfl⟩
    simp [Token.isSeen, visible]
  | case2 buffer number reached token held hidden ih =>
    have extension := buffer.reach_extends number
    have found : buffer.stock[number]? = some token := by
      rw [← extension.stock]
      exact (getElem?_stock (lt_size_reach inside)).trans held
    obtain ⟨within, same⟩ := List.getElem?_eq_some_iff.1 found
    have ending := terminated.isEof_getElem within
    rw [same] at ending
    have sameStock : reached.stock = buffer.stock := extension.stock
    cases ends : token.isEof with
    | false =>
      have further : number + 1 < reached.stock.length := by
        rw [sameStock]
        have : number + 1 ≠ buffer.stock.length := fun last => by simp [ending.2 last] at ends
        omega
      obtain ⟨next, holds, sees⟩ := ih (sameStock ▸ terminated) further
      refine ⟨next, holds, ?_⟩
      have unseen : token.isSeen = false := by simp [Token.isSeen, ends, hidden]
      rw [← visibleFrom_succ_of_not_isSeen found unseen, ← extension.visibleFrom_eq,
        ← extension.visibleFrom_eq]
      exact sees
    | true =>
      have back := nextVisible_behind_end (sameStock ▸ terminated) held ends
      exact ⟨token, by rw [back]; exact ⟨held, by simp [Token.isSeen, ends]⟩, by rw [back]⟩

end TokenBuffer

end Conformance
