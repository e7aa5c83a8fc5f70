import Conformance.Token.Source

/-!
# Token buffers

A token buffer fetches the tokens of a source as they are needed, numbers them and keeps them all,
while looking ahead and consuming see the visible ones only. The end token is seen even when it is
hidden, it is never consumed, and nothing is fetched after it.
-/

namespace Conformance

/-- The tokens fetched from a source, and a place among them. -/
structure TokenBuffer where
  /-- The source, after what has been fetched. -/
  source : TokenSource
  /-- The tokens fetched so far, hidden ones included. -/
  fetched : Array Token
  /-- The number from which the next visible token is searched. -/
  place : Nat

namespace TokenBuffer

/-- The buffer over a source from which nothing has been fetched. -/
def ofSource (source : TokenSource) : TokenBuffer :=
  ⟨source, #[], 0⟩

/-- The end token has been fetched. -/
def isFilled (buffer : TokenBuffer) : Bool :=
  buffer.fetched.back?.any Token.isEof

/-- The buffer with one token more. -/
def fetch (buffer : TokenBuffer) : TokenBuffer :=
  let (token, source) := buffer.source.next
  { buffer with source, fetched := buffer.fetched.push (token.number buffer.fetched.size) }

/-- A bound on the number of tokens the buffer will ever hold. -/
def capacity (buffer : TokenBuffer) : Nat :=
  if buffer.isFilled then buffer.fetched.size
  else buffer.fetched.size + buffer.source.remaining + 1

/-- Fetching adds one token. -/
@[simp] theorem size_fetch (buffer : TokenBuffer) :
    buffer.fetch.fetched.size = buffer.fetched.size + 1 := by
  simp [fetch]

/-- Fetching a token does not raise the bound. -/
theorem capacity_fetch_le {buffer : TokenBuffer} (going : buffer.isFilled = false) :
    buffer.fetch.capacity ≤ buffer.capacity := by
  unfold capacity
  simp only [going, Bool.false_eq_true, ↓reduceIte, size_fetch]
  split
  · omega
  · rename_i unfilled
    have open' : buffer.source.next.1.isEof = false := by
      simpa [isFilled, fetch] using unfilled
    have closer := TokenSource.remaining_next_lt open'
    simp only [fetch]
    omega

/-- The buffer in which a token has the given number, or which ends before it. -/
def reach (buffer : TokenBuffer) (number : Nat) : TokenBuffer :=
  if buffer.fetched.size ≤ number ∧ buffer.isFilled = false then buffer.fetch.reach number
  else buffer
termination_by number + 1 - buffer.fetched.size
decreasing_by
  rename_i short
  simp only [size_fetch]
  omega

/-- Reaching a number does not raise the bound. -/
theorem capacity_reach_le (buffer : TokenBuffer) (number : Nat) :
    (buffer.reach number).capacity ≤ buffer.capacity := by
  fun_induction reach buffer number with
  | case1 buffer short ih => exact Nat.le_trans ih (capacity_fetch_le short.2)
  | case2 buffer reached => exact Nat.le_refl _

/-- The bound holds for the tokens in the buffer. -/
theorem size_le_capacity (buffer : TokenBuffer) : buffer.fetched.size ≤ buffer.capacity := by
  unfold capacity
  split <;> omega

/-- The number of the first visible token from `number` on, the end token being visible, and the
buffer that holds it. -/
def nextVisible (buffer : TokenBuffer) (number : Nat) : Nat × TokenBuffer :=
  let reached := buffer.reach number
  match held : reached.fetched[number]? with
  | none => (reached.fetched.size - 1, reached)
  | some token => if token.isHidden then reached.nextVisible (number + 1) else (number, reached)
termination_by buffer.capacity - number
decreasing_by
  have inside : number < (buffer.reach number).fetched.size := (Array.getElem?_eq_some_iff.1 held).1
  have bound := size_le_capacity (buffer.reach number)
  have shrunk := capacity_reach_le buffer number
  omega

/-- The token with a number; the end token stands for a number that the buffer does not hold. -/
def token (buffer : TokenBuffer) (number : Nat) : Token :=
  buffer.fetched[number]?.getD (Token.eof Position.start)

/-- From the token with the given number, the number of the visible token `steps` further on, which
is the end token when there are fewer. -/
def forward (buffer : TokenBuffer) (number : Nat) : Nat → Nat × TokenBuffer
  | 0 => (number, buffer)
  | steps + 1 =>
    if (buffer.token number).isEof then (number, buffer)
    else
      let (later, reached) := buffer.nextVisible (number + 1)
      reached.forward later steps

/-- The visible token `offset` places ahead, the next one being at offset one. -/
def lookahead (buffer : TokenBuffer) (offset : Nat) : Token × TokenBuffer :=
  let (first, reached) := buffer.nextVisible buffer.place
  let (number, reached) := reached.forward first (offset - 1)
  (reached.token number, reached)

/-- The next visible token, and the buffer after it; the end token stays. -/
def consume (buffer : TokenBuffer) : Token × TokenBuffer :=
  let (number, reached) := buffer.nextVisible buffer.place
  let token := reached.token number
  (token, if token.isEof then reached else { reached with place := number + 1 })

/-- The number of the next visible token. -/
def index (buffer : TokenBuffer) : Nat × TokenBuffer :=
  buffer.nextVisible buffer.place

/-- The buffer with every token up to the end token. -/
def fill (buffer : TokenBuffer) : TokenBuffer :=
  buffer.reach buffer.capacity

end TokenBuffer

end Conformance
